import ImageOwnership.Decimal.Binary64

/-!
Decimal numerals after scanning: a sign, digits before and after a point, and a power of ten.
-/

namespace ImageOwnership

/-- A scanned numeral with a fraction or an exponent. -/
structure Numeral where
  negative : Bool
  whole : List Nat
  fraction : List Nat
  exponent : Int
deriving DecidableEq, Repr

namespace Numeral

/-- The digits that a text begins with, and the rest of it. -/
def takeDigits {α : Type} (value? : α → Option Nat) : List α → List Nat × List α
  | [] => ([], [])
  | first :: rest =>
      match value? first with
      | none => ([], first :: rest)
      | some digit => (digit :: (takeDigits value? rest).1, (takeDigits value? rest).2)

def integer (negative : Bool) (digits : List Nat) : Int :=
  let number : Int := Binary64.ofDigits digits
  if negative then -number else number

def toBinary64 (numeral : Numeral) : Binary64 :=
  Binary64.ofDecimal numeral.negative (numeral.whole ++ numeral.fraction)
    (numeral.exponent - numeral.fraction.length)

/-- Reading digits loses nothing and never lengthens the text. -/
theorem length_takeDigits {α : Type} (value? : α → Option Nat) (text : List α) :
    (takeDigits value? text).1.length + (takeDigits value? text).2.length = text.length := by
  induction text with
  | nil => rfl
  | cons first rest induction =>
      simp only [takeDigits]
      split
      · simp
      · simp only [List.length_cons]
        omega

end Numeral

end ImageOwnership
