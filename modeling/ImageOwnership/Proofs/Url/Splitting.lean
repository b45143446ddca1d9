import ImageOwnership.Proofs.Result
import ImageOwnership.Url.Parsing

/-!
Addresses below an origin. A path that is written after an origin leaves its scheme, its user
information, its host and its port as they are: what stands before the first slash of the path is split
as if the path were not there.
-/

namespace ImageOwnership.Url

theorem takeWhile_append_stop {α : Type} (keeps : α → Bool) {stop : α} (stops : keeps stop = false)
    (text rest : List α) : (text ++ stop :: rest).takeWhile keeps = text.takeWhile keeps := by
  induction text with
  | nil => simp [stops]
  | cons first others ih => simp [List.takeWhile_cons, ih]

theorem dropWhile_append_stop {α : Type} (keeps : α → Bool) {stop : α} (stops : keeps stop = false)
    (text rest : List α) :
    (text ++ stop :: rest).dropWhile keeps = text.dropWhile keeps ++ stop :: rest := by
  induction text with
  | nil => simp [stops]
  | cons first others ih =>
      rw [List.cons_append, List.dropWhile_cons, List.dropWhile_cons]
      split
      · exact ih
      · rfl

/-! ### Splitting -/

theorem splitScheme_append (text rest : List Char) :
    splitScheme (text ++ '/' :: rest) =
      ((splitScheme text).1, (splitScheme text).2 ++ '/' :: rest) := by
  have slash : isSchemeChar '/' = false := by decide
  cases text with
  | nil => rfl
  | cons first others =>
      simp only [splitScheme, List.cons_append]
      by_cases colon : first = ':'
      · simp [colon]
      · simp only [colon, if_false]
        by_cases letter : first.isAlpha = true
        · simp only [letter, if_true, dropWhile_append_stop isSchemeChar slash,
            takeWhile_append_stop isSchemeChar slash]
          cases others.dropWhile isSchemeChar with
          | nil => rfl
          | cons next after =>
              by_cases ended : next = ':'
              · simp [ended]
              · simp [ended]
        · simp [letter]

theorem splitScheme_suffix (text : List Char) : (splitScheme text).2 <:+ text := by
  cases text with
  | nil => exact List.suffix_rfl
  | cons first others =>
      simp only [splitScheme]
      split
      · exact List.suffix_cons first others
      · split
        · split
          · rename_i after same
            have dropped : ':' :: after <:+ others := same ▸ List.dropWhile_suffix _
            exact ((List.suffix_cons ':' after).trans dropped).trans (List.suffix_cons first others)
          · exact List.suffix_rfl
        · exact List.suffix_rfl

theorem splitAuthority_unmarked {text : List Char} (unmarked : ∀ rest, text ≠ '/' :: '/' :: rest) :
    splitAuthority text = ([], text) := by
  unfold splitAuthority
  split
  · exact absurd rfl (unmarked _)
  · rfl

theorem splitAuthority_append {text rest : List Char} (last : text.getLast? ≠ some '/')
    (first : rest.head? ≠ some '/') :
    splitAuthority (text ++ '/' :: rest) =
      ((splitAuthority text).1, (splitAuthority text).2 ++ '/' :: rest) := by
  by_cases marked : ∃ others, text = '/' :: '/' :: others
  · obtain ⟨others, rfl⟩ := marked
    simp only [splitAuthority, List.cons_append]
    rw [takeWhile_append_stop (!endsAuthority ·) (by decide),
      dropWhile_append_stop (!endsAuthority ·) (by decide)]
  · have unmarked : ∀ others, text ≠ '/' :: '/' :: others := fun others same => marked ⟨others, same⟩
    have still : ∀ others, text ++ '/' :: rest ≠ '/' :: '/' :: others := by
      intro others same
      match text with
      | [] =>
          obtain ⟨_, rfl⟩ := List.cons.inj same
          exact first rfl
      | [only] =>
          obtain ⟨rfl, _⟩ := List.cons.inj same
          exact last rfl
      | one :: two :: more =>
          obtain ⟨rfl, tail⟩ := List.cons.inj same
          obtain ⟨rfl, _⟩ := List.cons.inj tail
          exact unmarked more rfl
    rw [splitAuthority_unmarked unmarked, splitAuthority_unmarked still]

/-- The text after the authority. -/
def afterAuthority (text : List Char) : List Char :=
  (splitAuthority (splitScheme text).2).2

/-- The parts of a path with what follows it, on the parts that stand before. -/
def Parts.withPath (parts : Parts) (text : List Char) : Parts :=
  let afterPath := text.dropWhile fun char => char ≠ '?' && char ≠ '#'
  { parts with
    path := text.takeWhile fun char => char ≠ '?' && char ≠ '#'
    query := splitQuery afterPath
    fragment := splitFragment (afterPath.dropWhile (· ≠ '#')) }

theorem split_eq_withPath (text : List Char) :
    split text = (split text).withPath (afterAuthority text) := rfl

theorem split_append {origin rest : List Char} (last : origin.getLast? ≠ some '/')
    (first : rest.head? ≠ some '/') :
    split (origin ++ '/' :: rest) =
      (split origin).withPath (afterAuthority origin ++ '/' :: rest) := by
  have inside : (splitScheme origin).2.getLast? ≠ some '/' := by
    obtain ⟨before, whole⟩ := splitScheme_suffix origin
    intro ends
    apply last
    rw [← whole, List.getLast?_append, ends]
    rfl
  have scheme := splitScheme_append origin rest
  have authority := splitAuthority_append inside first
  simp only [split, scheme, authority]
  rfl

end ImageOwnership.Url
