import ImageOwnership.Decimal.Shortest

/-!
The text of a floating-point number: its shortest digits, positional when the first digit stands for
at least `10 ^ -4` and less than `10 ^ 16`, and with an exponent otherwise. Positional notation keeps
a digit after the point, an exponent has a sign and at least two digits.
-/

namespace ImageOwnership

namespace Notation

/-- Digits with the point after the first `whole` of them, or with zeros to fill up to it. -/
def positional (digits : List Char) (whole : Int) : List Char :=
  let padded := List.replicate (1 - whole).toNat '0' ++ digits
  let count := max whole.toNat 1
  let before := padded.take count
  let after := padded.drop count
  before ++ List.replicate (count - before.length) '0' ++ '.' ::
    if after.isEmpty then ['0'] else after

/-- One digit before the point, and a point only before further digits. -/
def withExponent (digits : List Char) (exponent : Int) : List Char :=
  let size := Nat.toDigits 10 exponent.natAbs
  let after := digits.drop 1
  digits.take 1 ++ (if after.isEmpty then [] else '.' :: after) ++
    'e' :: (if exponent < 0 then '-' else '+') :: List.replicate (2 - size.length) '0' ++ size

def ofDecimal (decimal : Shortest.Decimal) : List Char :=
  let digits := Nat.toDigits 10 decimal.coefficient
  let whole := decimal.exponent + digits.length
  if -4 < whole && whole ≤ 16 then
    positional digits whole
  else
    withExponent digits (whole - 1)

end Notation

namespace Binary64

private def signed (negative : Bool) (text : List Char) : List Char :=
  if negative then '-' :: text else text

def toChars : Binary64 → List Char
  | .nan => "nan".toList
  | .infinite negative => signed negative "inf".toList
  | .finite negative significand exponent =>
      signed negative <|
        if significand = 0 then
          "0.0".toList
        else
          Notation.ofDecimal (Shortest.ofFinite significand exponent)

end Binary64

end ImageOwnership
