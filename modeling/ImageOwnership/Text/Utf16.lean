import ImageOwnership.Text.CodePoint

/-!
UTF-16 read from bytes. A high half and the low half after it are one character; a half without its
other half is kept as it is, so only a byte without its partner is a fault.
-/

namespace ImageOwnership

/-- Whether the most or the least significant byte of a unit comes first. -/
inductive ByteOrder where
  | big
  | little
deriving DecidableEq, Repr

namespace Utf16

def unit (order : ByteOrder) (first second : UInt8) : Nat :=
  match order with
  | .big => first.toNat * 256 + second.toNat
  | .little => second.toNat * 256 + first.toNat

def units? (order : ByteOrder) : List UInt8 → Option (List Nat)
  | [] => some []
  | [_] => none
  | first :: second :: rest => (units? order rest).map (unit order first second :: ·)

/-- The code points that the units stand for; a unit is below `0x10000`, so that each has one. -/
def join : List Nat → List CodePoint
  | [] => []
  | [last] => [.ofNumber last]
  | high :: low :: rest =>
      if CodePoint.isHighHalf high && CodePoint.isLowHalf low then
        .ofNumber (CodePoint.joinHalves high low) :: join rest
      else
        .ofNumber high :: join (low :: rest)

def decode? (order : ByteOrder) (bytes : List UInt8) : Option (List CodePoint) :=
  (units? order bytes).map join

end Utf16

end ImageOwnership
