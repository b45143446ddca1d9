import ImageOwnership.Text.Blank
import Mathlib.Data.List.TakeWhile

/-!
Stretches of characters of one kind, and texts without the blanks around them.
-/

namespace ImageOwnership

/-- A stretch of characters ends where the first other character stands. -/
theorem span_stretch {keeps : Char → Bool} {stretch rest : List Char}
    (kept : ∀ char ∈ stretch, keeps char = true)
    (stops : ∀ char, rest.head? = some char → keeps char = false) :
    (stretch ++ rest).takeWhile keeps = stretch ∧ (stretch ++ rest).dropWhile keeps = rest := by
  rw [List.takeWhile_append_of_pos kept, List.dropWhile_append_of_pos kept]
  cases rest with
  | nil => simp
  | cons first others => simp [stops first rfl]

namespace Blank

variable {text core : List Char}

/-- A text that stands between blanks in another one. -/
inductive Surrounds (core : List Char) : List Char → Prop where
  | blanks {before after : List Char} (front : ∀ char ∈ before, isBlank char = true)
      (back : ∀ char ∈ after, isBlank char = true) : Surrounds core (before ++ (core ++ after))

theorem surrounds_trim (text : List Char) : Surrounds (trim text) text := by
  have front : ∀ char ∈ text.takeWhile isBlank, isBlank char = true := fun char member =>
    List.mem_takeWhile_imp member
  have back : ∀ char ∈ ((text.dropWhile isBlank).reverse.takeWhile isBlank).reverse,
      isBlank char = true := by
    intro char member
    exact List.mem_takeWhile_imp (List.mem_reverse.mp member)
  have whole : text = text.takeWhile isBlank ++
      (trim text ++ ((text.dropWhile isBlank).reverse.takeWhile isBlank).reverse) := by
    rw [trim, ← List.reverse_append, List.takeWhile_append_dropWhile, List.reverse_reverse,
      List.takeWhile_append_dropWhile]
  have surrounds : Surrounds (trim text) _ := .blanks front back
  rwa [← whole] at surrounds

/-- Only the blanks go when none stands inside. -/
theorem trim_of_surrounds (surrounds : Surrounds core text) (some : core ≠ [])
    (inked : ∀ char ∈ core, isBlank char = false) : trim text = core := by
  cases surrounds with
  | @blanks before after front back =>
      have first : ∀ char, (core ++ after).head? = .some char → isBlank char = false := by
        intro char head
        cases core with
        | nil => exact absurd rfl some
        | cons mark others =>
            cases Option.some.inj head
            exact inked _ List.mem_cons_self
      have last : ∀ char, core.reverse.head? = .some char → isBlank char = false := by
        intro char head
        exact inked char (List.mem_reverse.mp (List.mem_of_mem_head? head))
      have back' : ∀ char ∈ after.reverse, isBlank char = true := fun char member =>
        back char (List.mem_reverse.mp member)
      rw [trim, (span_stretch front first).2, List.reverse_append, (span_stretch back' last).2,
        List.reverse_reverse]

end Blank

end ImageOwnership
