import ImageOwnership.Json.Token

/-!
Tokens before a mark. A comma and a closing brace belong to no other token, and so what is read up to one
of them does not depend on what comes after it.
-/

namespace ImageOwnership.Json

/-- The marks at which a member of an object ends. -/
inductive Mark where
  | comma
  | closeObject

namespace Mark

def point : Mark → CodePoint
  | comma => .char ','
  | closeObject => .char '\x7d'

def token : Mark → Token
  | comma => .comma
  | closeObject => .closeObject

theorem digit?_point (mark : Mark) : Token.digit? mark.point = none := by
  cases mark <;> decide

theorem point_ne_quote (mark : Mark) : mark.point ≠ .char '"' := by
  cases mark <;> decide

end Mark

/-- Before a mark a reader takes the same from a text, whatever follows the mark. -/
def Leaves {Value : Type} (read : List CodePoint → Value × List CodePoint) (text : List CodePoint)
    (value : Value) (rest : List CodePoint) : Prop :=
  ∀ (mark : Mark) (after : List CodePoint),
    read (text ++ mark.point :: after) = (value, rest ++ mark.point :: after)

namespace Token

/-! ### Numbers -/

theorem takeDigits_leaves (text : List CodePoint) :
    ∃ digits rest, Leaves (Numeral.takeDigits digit?) text digits rest := by
  induction text with
  | nil => exact ⟨[], [], fun mark after => by simp [Numeral.takeDigits, mark.digit?_point]⟩
  | cons first text ih =>
      obtain ⟨digits, rest, leaves⟩ := ih
      cases read : digit? first with
      | none => exact ⟨[], first :: text, fun mark after => by simp [Numeral.takeDigits, read]⟩
      | some digit =>
          exact ⟨digit :: digits, rest,
            fun mark after => by simp [Numeral.takeDigits, read, leaves mark after]⟩

theorem whole_leaves (text : List CodePoint) : ∃ digits rest, Leaves whole text digits rest := by
  cases text with
  | nil =>
      refine ⟨[], [], ?_⟩
      intro mark after
      cases mark <;> simp [whole, Mark.point, Numeral.takeDigits, digit?]
  | cons first text =>
      by_cases zero : first = .char '0'
      · exact ⟨[0], text, fun mark after => by rw [zero]; rfl⟩
      · obtain ⟨digits, rest, leaves⟩ := takeDigits_leaves (first :: text)
        refine ⟨digits, rest, ?_⟩
        intro mark after
        rw [← leaves mark after]
        simp [whole, zero]

theorem fraction_leaves (text : List CodePoint) :
    ∃ digits rest, Leaves fraction text digits rest := by
  cases text with
  | nil =>
      refine ⟨[], [], ?_⟩
      intro mark after
      cases mark <;> simp [fraction, Mark.point]
  | cons first text =>
      by_cases isPoint : first = .char '.'
      · subst isPoint
        obtain ⟨digits, rest, leaves⟩ := takeDigits_leaves text
        cases digits with
        | nil =>
            exact ⟨[], .char '.' :: text, fun mark after => by simp [fraction, leaves mark after]⟩
        | cons digit digits =>
            exact ⟨digit :: digits, rest, fun mark after => by simp [fraction, leaves mark after]⟩
      · refine ⟨[], first :: text, ?_⟩
        intro mark after
        simp [fraction, isPoint]

theorem exponentSign_leaves (text : List CodePoint) :
    ∃ negative rest, Leaves exponentSign text negative rest := by
  cases text with
  | nil =>
      refine ⟨false, [], ?_⟩
      intro mark after
      cases mark <;> simp [exponentSign, Mark.point]
  | cons first text =>
      by_cases minus : first = .char '-'
      · exact ⟨true, text, fun mark after => by rw [minus]; rfl⟩
      · by_cases plus : first = .char '+'
        · exact ⟨false, text, fun mark after => by rw [plus]; rfl⟩
        · exact ⟨false, first :: text, fun mark after => by simp [exponentSign, minus, plus]⟩

theorem exponent_leaves (text : List CodePoint) :
    ∃ power rest, Leaves exponent text power rest := by
  cases text with
  | nil =>
      refine ⟨none, [], ?_⟩
      intro mark after
      cases mark <;> simp [exponent, Mark.point]
  | cons first text =>
      by_cases isPower : first = .char 'e' ∨ first = .char 'E'
      · obtain ⟨negative, signed, signs⟩ := exponentSign_leaves text
        obtain ⟨digits, rest, leaves⟩ := takeDigits_leaves signed
        cases digits with
        | nil =>
            refine ⟨none, first :: text, ?_⟩
            intro mark after
            rcases isPower with rfl | rfl <;>
              simp [exponent, signs mark after, leaves mark after]
        | cons digit digits =>
            refine ⟨some (Numeral.integer negative (digit :: digits)), rest, ?_⟩
            intro mark after
            rcases isPower with rfl | rfl <;>
              simp [exponent, signs mark after, leaves mark after]
      · refine ⟨none, first :: text, ?_⟩
        intro mark after
        cases first with
        | surrogate => simp [exponent]
        | char letter =>
            simp only [CodePoint.char.injEq, not_or] at isPower
            simp [exponent, isPower]

/-- Where a number can be read before a mark it ends before the mark. -/
theorem number_leaves {negative : Bool} {text : List CodePoint} {mark : Mark}
    (sound : (number negative (text ++ [mark.point])).1 ≠ .malformed) :
    ∃ token rest, Leaves (number negative) text token rest := by
  obtain ⟨digits, decimal, wholes⟩ := whole_leaves text
  obtain ⟨decimals, powered, fractions⟩ := fraction_leaves decimal
  obtain ⟨power, rest, powers⟩ := exponent_leaves powered
  -- A number without digits is malformed already, so nothing after its digits can spoil it.
  cases digits with
  | nil => simp [number, wholes mark [], stop] at sound
  | cons digit digits =>
      refine ⟨.numeric ⟨negative, digit :: digits, decimals, power⟩, rest, ?_⟩
      intro other later
      simp [number, wholes other later, fractions other later, powers other later]

/-! ### Words and strings -/

theorem word_leaves {letters : List Char} {value : Json (List CodePoint)} {text : List CodePoint}
    {mark : Mark} (sound : (word letters value (text ++ [mark.point])).1 ≠ .malformed)
    (unmarked : mark.point ∉ letters.map .char) :
    Leaves (word letters value) text (.atom value) (text.drop letters.length) := by
  have found : (text ++ [mark.point]).take letters.length = letters.map .char := by
    refine Decidable.byContradiction fun other => sound ?_
    rw [word, if_neg other]
    rfl
  -- A word that went on beyond the text would hold the mark.
  have short : letters.length ≤ text.length := by
    refine Nat.le_of_not_lt fun long => unmarked ?_
    rw [← found, List.take_of_length_le (by simp; omega)]
    exact List.mem_append_right _ (List.mem_singleton_self _)
  intro other later
  rw [List.take_append_of_le_length short] at found
  simp [word, List.take_append_of_le_length short, List.drop_append_of_le_length short, found]

section Strings

variable {rest : List CodePoint}

theorem pieces?_unit {first second third fourth : CodePoint} {number : Nat}
    (written : unit? first second third fourth = some number) :
    pieces? (.char '\\' :: .char 'u' :: first :: second :: third :: fourth :: rest) =
      (pieces? rest).map fun read => (.unit number :: read.1, read.2) := by
  cases read : pieces? rest <;> simp [pieces?, written, read]

theorem pieces?_escape {mark : CodePoint} {char : Char} (stands : escape? mark = some char) :
    pieces? (.char '\\' :: mark :: rest) =
      (pieces? rest).map fun read => (.plain (.char char) :: read.1, read.2) := by
  have unlettered : mark ≠ .char 'u' := by
    rintro rfl
    simp [escape?] at stands
  rw [pieces?]
  · cases read : pieces? rest <;> simp [stands]
  · exact fun _ _ _ _ _ lettered => absurd lettered unlettered

theorem pieces?_plain {point : CodePoint} (unquoted : point ≠ .char '"')
    (unescaped : point ≠ .char '\\') (printed : 0x20 ≤ point.number) :
    pieces? (point :: rest) =
      (pieces? rest).map fun read => (.plain point :: read.1, read.2) := by
  rw [pieces?]
  · cases read : pieces? rest <;> simp [unescaped, printed]
  · exact unquoted
  · exact fun _ _ _ _ _ escaped => absurd escaped unescaped
  · exact fun _ _ escaped => absurd escaped unescaped

/-- A string is read up to its closing mark and no further. -/
theorem pieces?_closed {text : List CodePoint} :
    ∀ pieces rest, pieces? text = some (pieces, rest) →
      ∃ inside, text = inside ++ .char '"' :: rest ∧
        ∀ more, pieces? (inside ++ .char '"' :: more) = some (pieces, more) := by
  fun_induction pieces? text with
  | case1 => simp
  | case2 rest =>
      intro pieces after read
      cases read
      exact ⟨[], rfl, fun more => rfl⟩
  | case3 first second third fourth rest ih =>
      intro pieces after read
      simp only [Option.bind_eq_bind, Option.bind_eq_some_iff, Option.some.injEq, Prod.mk.injEq]
        at read
      obtain ⟨number, written, ⟨others, _⟩, read, rfl, rfl⟩ := read
      obtain ⟨inside, rfl, again⟩ := ih _ _ read
      refine ⟨.char '\\' :: .char 'u' :: first :: second :: third :: fourth :: inside, rfl, ?_⟩
      intro more
      simp [pieces?_unit written, again]
  | case4 mark rest _ ih =>
      intro pieces after read
      simp only [Option.bind_eq_bind, Option.bind_eq_some_iff, Option.some.injEq, Prod.mk.injEq]
        at read
      obtain ⟨char, stands, ⟨others, _⟩, read, rfl, rfl⟩ := read
      obtain ⟨inside, rfl, again⟩ := ih _ _ read
      refine ⟨.char '\\' :: mark :: inside, rfl, ?_⟩
      intro more
      simp [pieces?_escape stands, again]
  | case5 => simp
  | case6 point rest unquoted _ _ plain ih =>
      intro pieces after read
      simp only [Option.bind_eq_bind, Option.bind_eq_some_iff, Option.some.injEq, Prod.mk.injEq]
        at read
      obtain ⟨⟨others, _⟩, read, rfl, rfl⟩ := read
      obtain ⟨inside, rfl, again⟩ := ih _ _ read
      refine ⟨point :: inside, rfl, ?_⟩
      intro more
      simp only [Bool.or_eq_true, decide_eq_true_eq, not_or, Nat.not_lt] at plain
      simp [pieces?_plain unquoted plain.1 plain.2, again]

end Strings

theorem string_leaves {text : List CodePoint} {mark : Mark}
    (sound : (string (text ++ [mark.point])).1 ≠ .malformed) :
    ∃ token rest, Leaves string text token rest := by
  cases read : pieces? (text ++ [mark.point]) with
  | none => simp [string, read, stop] at sound
  | some closed =>
      obtain ⟨pieces, rest⟩ := closed
      obtain ⟨inside, split, again⟩ := pieces?_closed pieces rest read
      -- The closing quotation mark is not the mark that follows, and so it stands in the text.
      obtain rfl | ⟨front, last, rfl⟩ := rest.eq_nil_or_concat
      · have same := List.append_inj' split rfl
        simp [mark.point_ne_quote] at same
      · rw [List.concat_eq_append, ← List.cons_append, ← List.append_assoc] at split
        obtain ⟨rfl, _⟩ := List.append_inj' split rfl
        refine ⟨.quoted (assemble pieces), front, ?_⟩
        intro other later
        simp [string, again]

/-! ### All tokens -/

theorem minus_leaves {text : List CodePoint} {mark : Mark}
    (sound : (next (.char '-') (text ++ [mark.point])).1 ≠ .malformed) :
    ∃ token rest, Leaves (next (.char '-')) text token rest := by
  cases text with
  | nil => cases mark <;> simp [next, Mark.point, number, whole, Numeral.takeDigits, digit?, stop] at sound
  | cons second text =>
      by_cases infinite : second = .char 'I'
      · subst infinite
        change (word "nfinity".toList (.real (.infinite true)) (text ++ [mark.point])).1 ≠ .malformed
          at sound
        exact ⟨_, _, word_leaves sound (by cases mark <;> simp [Mark.point])⟩
      · have numeric : ∀ more, next (.char '-') (second :: more) = number true (second :: more) := by
          intro more
          simp [next, infinite]
        rw [List.cons_append, numeric, ← List.cons_append] at sound
        obtain ⟨token, rest, leaves⟩ := number_leaves sound
        refine ⟨token, rest, ?_⟩
        intro other later
        rw [List.cons_append, numeric]
        exact leaves other later

theorem next_leaves {first : CodePoint} {text : List CodePoint} {mark : Mark}
    (sound : (next first (text ++ [mark.point])).1 ≠ .malformed) :
    ∃ token rest, Leaves (next first) text token rest := by
  have unmarked : ∀ letters : List Char, ',' ∉ letters → '\x7d' ∉ letters →
      mark.point ∉ letters.map .char := by
    intro letters comma brace
    cases mark <;> simpa [Mark.point]
  unfold next at sound
  split at sound
  case h_7 => exact string_leaves sound
  case h_8 => exact ⟨_, _, word_leaves sound (unmarked _ (by decide) (by decide))⟩
  case h_9 => exact ⟨_, _, word_leaves sound (unmarked _ (by decide) (by decide))⟩
  case h_10 => exact ⟨_, _, word_leaves sound (unmarked _ (by decide) (by decide))⟩
  case h_11 => exact ⟨_, _, word_leaves sound (unmarked _ (by decide) (by decide))⟩
  case h_12 => exact ⟨_, _, word_leaves sound (unmarked _ (by decide) (by decide))⟩
  case h_13 => exact minus_leaves sound
  case h_14 =>
      rw [← List.cons_append] at sound
      obtain ⟨token, rest, leaves⟩ := number_leaves sound
      refine ⟨token, rest, ?_⟩
      intro other later
      rw [next]
      · exact leaves other later
      all_goals assumption
  all_goals exact ⟨_, text, fun _ _ => rfl⟩

end Token

@[simp] theorem tokens_nil : tokens [] = [] := by
  rw [tokens]

theorem tokens_blank {first : CodePoint} (blank : Token.isBlank first = true)
    (rest : List CodePoint) : tokens (first :: rest) = tokens rest := by
  rw [tokens, if_pos blank]

theorem tokens_next {first : CodePoint} (visible : Token.isBlank first = false)
    (rest : List CodePoint) :
    tokens (first :: rest) = (Token.next first rest).1 :: tokens (Token.next first rest).2 := by
  rw [tokens, if_neg (by simp [visible])]

theorem tokens_mark (mark : Mark) (after : List CodePoint) :
    tokens (mark.point :: after) = mark.token :: tokens after := by
  cases mark with
  | comma => exact tokens_next rfl after
  | closeObject => exact tokens_next rfl after

/-- The tokens before a mark are the same whatever follows it. -/
theorem tokens_leaves {text : List CodePoint} {mark : Mark}
    (sound : .malformed ∉ tokens (text ++ [mark.point])) :
    ∃ before, ∀ (other : Mark) (after : List CodePoint),
      tokens (text ++ other.point :: after) = before ++ other.token :: tokens after := by
  -- A token may take more than one code point, and so the induction is on the length of the text.
  generalize size : text.length = length
  induction length using Nat.strongRecOn generalizing text with
  | ind length ih =>
      cases text with
      | nil => exact ⟨[], tokens_mark⟩
      | cons first text =>
          rw [List.length_cons] at size
          cases blank : Token.isBlank first with
          | true =>
              rw [List.cons_append, tokens_blank blank] at sound
              obtain ⟨before, leaves⟩ := ih text.length (by omega) sound rfl
              refine ⟨before, ?_⟩
              intro other after
              rw [List.cons_append, tokens_blank blank, leaves]
          | false =>
              rw [List.cons_append, tokens_next blank, List.mem_cons, not_or] at sound
              obtain ⟨token, rest, read⟩ := Token.next_leaves (Ne.symm sound.1)
              have shorter := Token.length_next first (text ++ [mark.point])
              rw [read mark []] at sound shorter
              simp only [List.length_append, List.length_cons, List.length_nil] at shorter
              obtain ⟨before, leaves⟩ := ih rest.length (by omega) sound.2 rfl
              refine ⟨token :: before, ?_⟩
              intro other after
              rw [List.cons_append, tokens_next blank, read, leaves, List.cons_append]

end ImageOwnership.Json
