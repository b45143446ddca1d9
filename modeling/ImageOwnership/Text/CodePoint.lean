/-!
Text as a forgiving reader may deliver it: characters, and halves of a surrogate pair that stand
alone. Ordinary text is the part without such halves, and `toString?` finds it again.
-/

namespace ImageOwnership

/-- One position of a text: a character, or a surrogate without its other half. -/
inductive CodePoint where
  | char (value : Char)
  | surrogate (offset : Fin 2048)
deriving DecidableEq, Repr, Inhabited

namespace CodePoint

/-- The number of a code point; the surrogates lie from `0xD800` to `0xDFFF`. -/
def number : CodePoint → Nat
  | .char value => value.toNat
  | .surrogate offset => 0xD800 + offset.val

/-- The code point with a given number, if there is one. -/
def ofNumber? (number : Nat) : Option CodePoint :=
  if valid : number.isValidChar then
    some (.char (Char.ofNatAux number valid))
  else if half : 0xD800 ≤ number ∧ number < 0xE000 then
    some (.surrogate ⟨number - 0xD800, by omega⟩)
  else
    none

/-- The code point with a given number; a number beyond the last one gives the replacement
character. -/
def ofNumber (number : Nat) : CodePoint :=
  (ofNumber? number).getD (.char '\uFFFD')

def toChar? : CodePoint → Option Char
  | .char value => some value
  | .surrogate _ => none

/-- The first half of a pair, from `0xD800` to `0xDBFF`. -/
def isHighHalf (number : Nat) : Bool :=
  0xD800 ≤ number && number < 0xDC00

/-- The second half of a pair, from `0xDC00` to `0xDFFF`. -/
def isLowHalf (number : Nat) : Bool :=
  0xDC00 ≤ number && number < 0xE000

/-- The number that a high half and the low half after it stand for together. -/
def joinHalves (high low : Nat) : Nat :=
  0x10000 + (high - 0xD800) * 0x400 + (low - 0xDC00)

/-- The text of a string: no half stands alone in it. -/
def ofString (text : String) : List CodePoint :=
  text.toList.map .char

/-- The string with this text, unless a half stands alone in it. -/
def toString? (text : List CodePoint) : Option String :=
  (text.mapM toChar?).map String.ofList

theorem ofNumber?_number (point : CodePoint) : ofNumber? point.number = some point := by
  cases point with
  | char value =>
      have valid : value.toNat.isValidChar := value.valid
      have same : Char.ofNatAux value.toNat valid = value := rfl
      change ofNumber? value.toNat = some (.char value)
      rw [ofNumber?, dif_pos valid, same]
  | surrogate offset =>
      have invalid : ¬ (0xD800 + offset.val).isValidChar := by
        simp only [Nat.isValidChar]
        omega
      have half : 0xD800 ≤ 0xD800 + offset.val ∧ 0xD800 + offset.val < 0xE000 := by omega
      change ofNumber? (0xD800 + offset.val) = some (.surrogate offset)
      rw [ofNumber?, dif_neg invalid, dif_pos half]
      simp only [Nat.add_sub_cancel_left]

theorem toString?_ofString (text : String) : toString? (ofString text) = some text := by
  have all : ∀ chars : List Char, (chars.map CodePoint.char).mapM toChar? = some chars := by
    intro chars
    induction chars with
    | nil => rfl
    | cons first rest induction => simp [List.mapM_cons, toChar?, induction]
  simp [toString?, ofString, all]

end CodePoint

end ImageOwnership
