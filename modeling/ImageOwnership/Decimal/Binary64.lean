/-!
Floating-point numbers of 64 bits as exact values: a significand below `2 ^ 53` times a power of two
that is at least `2 ^ -1074` and at most `2 ^ 971`. Decimal numerals are rounded to the nearest of
them in natural-number arithmetic, a tie to the even significand.
-/

namespace ImageOwnership

/-- A number of the format, an infinity, or no number. The significand of a finite value is at least
`2 ^ 52` unless the exponent is the least one, so that each number has one form; zero has two. -/
inductive Binary64 where
  | nan
  | infinite (negative : Bool)
  | finite (negative : Bool) (significand : Nat) (exponent : Int)
deriving DecidableEq, Repr

namespace Binary64

def leastExponent : Int := -1074

def greatestExponent : Int := 971

/-- Whether the value compares as at most zero; no number compares as nothing. -/
def atMostZero : Binary64 → Bool
  | .nan => false
  | .infinite negative => negative
  | .finite negative significand _ => negative || significand = 0

def isZero : Binary64 → Bool
  | .finite _ significand _ => significand = 0
  | _ => false

/-- The quotient rounded to the nearest natural number, a tie to the even one. -/
def nearestQuotient (numerator denominator : Nat) : Nat :=
  let quotient := numerator / denominator
  let twice := 2 * (numerator % denominator)
  if twice < denominator || (twice = denominator && quotient % 2 = 0) then
    quotient
  else
    quotient + 1

/-- A natural number times a power of two, when the power is not below one. -/
def scaled (number : Nat) (exponent : Int) : Nat :=
  number * Nat.pow 2 exponent.toNat

/-- The exponent of the greatest power of two that is at most the quotient of two positive
numbers. -/
def log2Quotient (numerator denominator : Nat) : Int :=
  let guess : Int := (numerator.log2 : Int) - denominator.log2
  if scaled denominator guess ≤ scaled numerator (-guess) then guess else guess - 1

/-- The quotient of two positive numbers, rounded to the format. -/
def ofQuotient (negative : Bool) (numerator denominator : Nat) : Binary64 :=
  let exponent := max leastExponent (log2Quotient numerator denominator - 52)
  let significand := nearestQuotient (scaled numerator (-exponent)) (scaled denominator exponent)
  let carried := significand = Nat.pow 2 53
  let exponent := if carried then exponent + 1 else exponent
  if exponent > greatestExponent then
    .infinite negative
  else
    .finite negative (if carried then Nat.pow 2 52 else significand) exponent

/-- The number that decimal digits spell. -/
def ofDigits (digits : List Nat) : Nat :=
  digits.foldl (fun number digit => 10 * number + digit) 0

/-- The number that decimal digits spell, times a power of ten, rounded to the format. Magnitudes far
outside the format are not computed. -/
def ofDecimal (negative : Bool) (digits : List Nat) (exponent : Int) : Binary64 :=
  let significant := digits.dropWhile (· = 0)
  let magnitude := significant.length + exponent
  if significant.isEmpty || magnitude < -330 then
    .finite negative 0 leastExponent
  else if magnitude > 310 then
    .infinite negative
  else
    ofQuotient negative (ofDigits significant * Nat.pow 10 exponent.toNat)
      (Nat.pow 10 (-exponent).toNat)

end Binary64

end ImageOwnership
