import ImageOwnership.Decimal.Binary64

/-!
The fewest decimal digits that read back as a given binary number. The reals that round to the number
form an interval; for one digit, two digits and so on the two neighbours of the number on that decimal
grid are tried, and the first grid with a neighbour inside the interval wins.
-/

namespace ImageOwnership.Shortest

/-- A decimal number: `coefficient * 10 ^ exponent`. -/
structure Decimal where
  coefficient : Nat
  exponent : Int
deriving DecidableEq, Repr

/-- The reals that round to a positive number of the format, as numerators over one denominator. The
ends belong to the interval when the significand is even. -/
structure Interval where
  low : Nat
  value : Nat
  high : Nat
  denominator : Nat
  closed : Bool

/-- The half-way points to the two neighbours; below a power of two the neighbour is nearer. -/
def interval (significand : Nat) (exponent : Int) : Interval :=
  let nearer := significand = Nat.pow 2 52 && exponent > Binary64.leastExponent
  let scale := exponent - 2
  { low := Binary64.scaled (4 * significand - if nearer then 1 else 2) scale
    value := Binary64.scaled (4 * significand) scale
    high := Binary64.scaled (4 * significand + 2) scale
    denominator := Binary64.scaled 1 (-scale)
    closed := significand % 2 = 0 }

namespace Interval

/-- Whether a quotient lies in the interval; both sides have been multiplied by the denominators. -/
def holds (within : Interval) (numerator denominator : Nat) : Bool :=
  let point := numerator * within.denominator
  let low := within.low * denominator
  let high := within.high * denominator
  if within.closed then low ≤ point && point ≤ high else low < point && point < high

/-- The number of digits before the point, at most zero for a number below one tenth. -/
def magnitude (within : Interval) : Int :=
  if within.denominator ≤ within.value then
    ((Nat.toDigits 10 (within.value / within.denominator)).length : Int)
  else
    let inverse := within.denominator / within.value
    -- the quotient lies below one, so its inverse tells the zeros after the point
    let zeros := (Nat.toDigits 10 inverse).length - 1
    if within.denominator ≤ within.value * Nat.pow 10 zeros then 1 - (zeros : Int) else -(zeros : Int)

/-- The neighbour of the value on the grid of multiples of `10 ^ exponent` that lies in the interval:
of two the nearer one, at a tie the even one. -/
def neighbour? (within : Interval) (exponent : Int) : Option Nat :=
  let up := Nat.pow 10 exponent.toNat
  let down := Nat.pow 10 (-exponent).toNat
  let numerator := within.value * down
  let denominator := within.denominator * up
  let below := numerator / denominator
  let aboveIsNearer := below ≠ Binary64.nearestQuotient numerator denominator
  match within.holds (below * up) down, within.holds ((below + 1) * up) down with
  | true, true => some (if aboveIsNearer then below + 1 else below)
  | true, false => some below
  | false, true => some (below + 1)
  | false, false => none

end Interval

/-- The decimal without trailing zeros in its coefficient. -/
def trimmed (decimal : Decimal) : Decimal :=
  let zeros := ((Nat.toDigits 10 decimal.coefficient).reverse.takeWhile (· = '0')).length
  ⟨decimal.coefficient / Nat.pow 10 zeros, decimal.exponent + zeros⟩

/-- The shortest decimal for a positive number of the format; seventeen digits always suffice. -/
def ofFinite (significand : Nat) (exponent : Int) : Decimal :=
  let within := interval significand exponent
  let magnitude := within.magnitude
  let found := (List.range 17).findSome? fun (more : Nat) =>
    let exponent : Int := magnitude - (more + 1)
    (within.neighbour? exponent).map (trimmed ⟨·, exponent⟩)
  found.getD ⟨0, 0⟩

end ImageOwnership.Shortest
