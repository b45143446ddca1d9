import ImageOwnership.Decimal.Reading
import ImageOwnership.Proofs.Text.Trim

/-!
Which texts are read as no number: the word for it in capital or small letters, after a sign or without
one, between blanks. A numeral always gives a number, finite or not.
-/

namespace ImageOwnership

/-- Two letters are lowered to the same one when one of them is the capital of the other. -/
theorem toLower_eq_iff {char lower upper : Char} (capital : upper.isUpper = true)
    (pair : upper.toNat + 32 = lower.toNat) : char.toLower = lower ↔ char = lower ∨ char = upper := by
  have range : 65 ≤ upper.toNat ∧ upper.toNat ≤ 90 := by
    have bounds : 'A'.val ≤ upper.val ∧ upper.val ≤ 'Z'.val := of_decide_eq_true capital
    simpa [UInt32.le_iff_toNat_le] using bounds
  rw [← Char.toNat_inj, ← Char.toNat_inj, ← Char.toNat_inj]
  unfold Char.toLower
  split
  · rename_i large
    have here : 65 ≤ char.toNat ∧ char.toNat ≤ 90 := by
      simpa [UInt32.le_iff_toNat_le] using large
    have lowered : (char.val + ('a'.val - 'A'.val)).toNat = char.toNat + 32 := by
      rw [UInt32.toNat_add]
      show (char.toNat + 32) % 2 ^ 32 = char.toNat + 32
      omega
    show (char.val + ('a'.val - 'A'.val)).toNat = lower.toNat ↔ _
    omega
  · rename_i other
    have elsewhere : ¬ (65 ≤ char.toNat ∧ char.toNat ≤ 90) := by
      simpa [UInt32.le_iff_toNat_le] using other
    omega

/-! ### Numerals -/

namespace Binary64

theorem ofQuotient_ne_nan (negative : Bool) (numerator denominator : Nat) :
    ofQuotient negative numerator denominator ≠ .nan := by
  simp only [ofQuotient]
  split
  · split
    · nofun
    · nofun
  · split
    · nofun
    · nofun

theorem ofDecimal_ne_nan (negative : Bool) (digits : List Nat) (exponent : Int) :
    ofDecimal negative digits exponent ≠ .nan := by
  simp only [ofDecimal]
  split
  · nofun
  · split
    · nofun
    · exact ofQuotient_ne_nan _ _ _

end Binary64

namespace Reading

/-! ### The word for no number -/

inductive IsSign : List Char → Prop where
  | absent : IsSign []
  | plus : IsSign ['+']
  | minus : IsSign ['-']

/-- The word for no number, in any case. -/
inductive IsNanWord : List Char → Prop where
  | letters {first second third : Char} (begins : first = 'n' ∨ first = 'N')
      (goesOn : second = 'a' ∨ second = 'A') (ends : third = 'n' ∨ third = 'N') :
      IsNanWord [first, second, third]

/-- A text that stands for no number. -/
inductive SpellsNan (text : List Char) : Prop where
  | between {sign word : List Char} (isSign : IsSign sign) (isWord : IsNanWord word)
      (surrounds : Blank.Surrounds (sign ++ word) text) : SpellsNan text

theorem map_toLower_eq_nan_iff {text : List Char} :
    text.map Char.toLower = ['n', 'a', 'n'] ↔ IsNanWord text := by
  have n (char : Char) : char.toLower = 'n' ↔ char = 'n' ∨ char = 'N' := toLower_eq_iff rfl rfl
  have a (char : Char) : char.toLower = 'a' ↔ char = 'a' ∨ char = 'A' := toLower_eq_iff rfl rfl
  constructor
  · intro same
    match text with
    | [] | [_] | [_, _] | _ :: _ :: _ :: _ :: _ => simp at same
    | [first, second, third] =>
        simp only [List.map_cons, List.map_nil, List.cons.injEq, and_true, n, a] at same
        obtain ⟨begins, goesOn, ends⟩ := same
        exact .letters begins goesOn ends
  · rintro ⟨begins, goesOn, ends⟩
    simp [(n _).mpr begins, (a _).mpr goesOn, (n _).mpr ends]

theorem unsignedReal?_eq_nan_iff (negative : Bool) {text : List Char} :
    unsignedReal? negative text = some .nan ↔ IsNanWord text := by
  have word (written : String) : String.ofList (text.map Char.toLower) = written ↔
      text.map Char.toLower = written.toList := by
    rw [← String.toList_inj, String.toList_ofList]
  rw [← map_toLower_eq_nan_iff, show ['n', 'a', 'n'] = "nan".toList from rfl]
  simp only [unsignedReal?, word, Bool.or_eq_true, decide_eq_true_eq]
  split
  · rename_i infinite
    obtain infinite | infinite := infinite
    · simp [infinite]
    · simp [infinite]
  · split
    · rename_i same
      simp [same]
    · rename_i other
      simp only [other, iff_false, Option.map_eq_some_iff, not_exists, not_and]
      exact fun numeral _ => Binary64.ofDecimal_ne_nan _ _ _

theorem takeSign_split (text : List Char) : ∃ sign, IsSign sign ∧ text = sign ++ (takeSign text).2 := by
  unfold takeSign
  split
  · exact ⟨_, .minus, rfl⟩
  · exact ⟨_, .plus, rfl⟩
  · exact ⟨_, .absent, rfl⟩

/-! ### Underscores -/

theorem underscoresDivide_cons {char : Char} (other : char ≠ '_') (digit : Bool) (rest : List Char) :
    underscoresDivide digit (char :: rest) = underscoresDivide (isDigit char) rest := by
  rw [underscoresDivide]
  · simp [other]
  · simp [other]

/-- Without digits there is nothing for an underscore to divide. -/
theorem underscore_notMem {text : List Char} (divide : underscoresDivide false text = true)
    (digitless : ∀ char ∈ text, isDigit char = false) : '_' ∉ text := by
  induction text with
  | nil => exact List.not_mem_nil
  | cons first rest ih =>
      by_cases underscore : first = '_'
      · -- It follows no digit, whatever stands after it.
        subst underscore
        cases rest <;> simp [underscoresDivide] at divide
      · rw [underscoresDivide_cons underscore, digitless first List.mem_cons_self] at divide
        have later := ih divide fun char member => digitless char (List.mem_cons_of_mem _ member)
        simp [Ne.symm underscore, later]

theorem underscoresDivide_of_notMem {text : List Char} (absent : '_' ∉ text) (digit : Bool) :
    underscoresDivide digit text = true := by
  induction text generalizing digit with
  | nil => rfl
  | cons first rest ih =>
      simp only [List.mem_cons, not_or] at absent
      rw [underscoresDivide_cons (Ne.symm absent.1)]
      exact ih absent.2 _

/-! ### Reading -/

/-- What a text for no number is written with, but for the blanks. -/
def nanMarks : List Char := ['n', 'N', 'a', 'A', '+', '-']

theorem nanMarks_plain : ∀ char ∈ nanMarks,
    Blank.isBlank char = false ∧ isDigit char = false ∧ char ≠ '_' := by
  simp only [nanMarks, List.forall_mem_cons]
  exact ⟨by decide, by decide, by decide, by decide, by decide, by decide, nofun⟩

theorem mem_nanMarks {sign word : List Char} (isSign : IsSign sign) (isWord : IsNanWord word) :
    ∀ char ∈ sign ++ word, char ∈ nanMarks := by
  have signs : ∀ char ∈ sign, char ∈ nanMarks := by
    cases isSign <;> simp [nanMarks]
  have letters : ∀ char ∈ word, char ∈ nanMarks := by
    obtain ⟨rfl | rfl, rfl | rfl, rfl | rfl⟩ := isWord
    all_goals simp [nanMarks]
  intro char member
  exact (List.mem_append.mp member).elim (signs char) (letters char)

theorem IsNanWord.takeSign {sign word : List Char} (isWord : IsNanWord word) (isSign : IsSign sign) :
    (takeSign (sign ++ word)).2 = word := by
  cases isSign with
  | absent => obtain ⟨rfl | rfl, _, _⟩ := isWord <;> rfl
  | plus => rfl
  | minus => rfl

theorem real_eq_nan {text : String} :
    real text = .ok .nan ↔
      underscoresDivide false (Blank.trim text.toList) = true ∧
        IsNanWord (takeSign ((Blank.trim text.toList).filter (· ≠ '_'))).2 := by
  simp only [real]
  split
  · rename_i divided
    rw [← unsignedReal?_eq_nan_iff (takeSign ((Blank.trim text.toList).filter (· ≠ '_'))).1]
    split
    · rename_i value read
      rw [read]
      simp [divided]
    · rename_i unread
      rw [unread]
      simp
  · rename_i divided
    simp [divided]

theorem spellsNan_of_real {text : String} (read : real text = .ok .nan) : SpellsNan text.toList := by
  obtain ⟨divided, isWord⟩ := real_eq_nan.mp read
  obtain ⟨sign, isSign, split⟩ := takeSign_split ((Blank.trim text.toList).filter (· ≠ '_'))
  -- The word is found in the text without its underscores. It has no digits, so there were none.
  have digitless : ∀ char ∈ Blank.trim text.toList, isDigit char = false := by
    intro char member
    by_cases underscore : char = '_'
    · rw [underscore]
      decide
    · have kept : char ∈ (Blank.trim text.toList).filter (· ≠ '_') := by
        simp [member, underscore]
      rw [split] at kept
      exact (nanMarks_plain char (mem_nanMarks isSign isWord char kept)).2.1
  have absent := underscore_notMem divided digitless
  have whole : (Blank.trim text.toList).filter (· ≠ '_') = Blank.trim text.toList := by
    rw [List.filter_eq_self]
    exact fun char member => decide_eq_true fun same => absent (same ▸ member)
  refine .between isSign isWord ?_
  rw [← split, whole]
  exact Blank.surrounds_trim _

theorem real_of_spellsNan {text : String} (spells : SpellsNan text.toList) : real text = .ok .nan := by
  obtain ⟨isSign, isWord, surrounds⟩ := spells
  rename_i sign word
  have plain := fun char member => nanMarks_plain char (mem_nanMarks isSign isWord char member)
  have some : sign ++ word ≠ [] := by
    cases isWord
    simp
  have trimmed : Blank.trim text.toList = sign ++ word :=
    Blank.trim_of_surrounds surrounds some fun char member => (plain char member).1
  have whole : (sign ++ word).filter (· ≠ '_') = sign ++ word := by
    rw [List.filter_eq_self]
    exact fun char member => decide_eq_true (plain char member).2.2
  rw [real_eq_nan, trimmed, whole, isWord.takeSign isSign]
  exact ⟨underscoresDivide_of_notMem (fun member => (plain '_' member).2.2 rfl) false, isWord⟩

/-- A text is read as no number exactly when it spells the word for it. -/
theorem real_eq_nan_iff {text : String} : real text = .ok .nan ↔ SpellsNan text.toList :=
  ⟨spellsNan_of_real, real_of_spellsNan⟩

end Reading

end ImageOwnership
