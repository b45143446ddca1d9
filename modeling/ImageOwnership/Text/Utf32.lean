import ImageOwnership.Text.Utf16

/-!
UTF-32 read from bytes. Surrogates are kept as they are; a number above the last code point and
bytes that do not fill a unit are faults.
-/

namespace ImageOwnership.Utf32

def unit (order : ByteOrder) (first second third fourth : UInt8) : Nat :=
  match order with
  | .big => Utf16.unit .big first second * 0x10000 + Utf16.unit .big third fourth
  | .little => Utf16.unit .little third fourth * 0x10000 + Utf16.unit .little first second

def decode? (order : ByteOrder) : List UInt8 → Option (List CodePoint)
  | [] => some []
  | first :: second :: third :: fourth :: rest =>
      match CodePoint.ofNumber? (unit order first second third fourth) with
      | some point => (decode? order rest).map (point :: ·)
      | none => none
  | _ => none

end ImageOwnership.Utf32
