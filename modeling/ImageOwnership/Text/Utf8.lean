import ImageOwnership.Text.CodePoint

/-!
UTF-8 read from bytes. `pieces` walks the bytes once: each well-formed sequence gives a code point,
each maximal malformed run a fault that says where it lies and what is wrong with it, and reading
goes on after the run. `decode` stops at the first fault, `decodeReplacing` puts the replacement
character in its place.
-/

namespace ImageOwnership.Utf8

/-- What is wrong with a malformed run of bytes. -/
inductive Flaw where
  | start
  | continuation
  | truncated
deriving DecidableEq, Repr

/-- A malformed run: its first byte, the place of that byte, and the number of bytes in the run. -/
structure Fault where
  flaw : Flaw
  lead : UInt8
  offset : Nat
  length : Nat
deriving DecidableEq, Repr

/-- A sequence that has begun and waits for its next byte, which must lie between `low` and
`high`; `more` bytes are to come after that one. -/
structure Pending where
  lead : UInt8
  offset : Nat
  read : Nat
  more : Nat
  low : Nat
  high : Nat
  bits : Nat

namespace Pending

def fault (pending : Pending) (flaw : Flaw) : Fault :=
  ⟨flaw, pending.lead, pending.offset, pending.read⟩

def accepts (pending : Pending) (byte : UInt8) : Bool :=
  pending.low ≤ byte.toNat && byte.toNat ≤ pending.high

def bitsWith (pending : Pending) (byte : UInt8) : Nat :=
  pending.bits * 64 + byte.toNat % 64

def advance (pending : Pending) (byte : UInt8) : Pending :=
  { pending with
    read := pending.read + 1
    more := pending.more - 1
    low := 0x80
    high := 0xBF
    bits := pending.bitsWith byte }

end Pending

/-- What the first byte of a sequence announces. With `halves`, three-byte forms of lone
surrogates are accepted as well. -/
inductive Lead where
  | single (number : Nat)
  | longer (pending : Pending)
  | invalid

def lead (halves : Bool) (offset : Nat) (byte : UInt8) : Lead :=
  let b := byte.toNat
  if b < 0x80 then
    .single b
  else if b < 0xC2 then
    .invalid
  else if b < 0xE0 then
    .longer ⟨byte, offset, 1, 0, 0x80, 0xBF, b - 0xC0⟩
  else if b < 0xF0 then
    .longer ⟨byte, offset, 1, 1, if b = 0xE0 then 0xA0 else 0x80,
      if b = 0xED && !halves then 0x9F else 0xBF, b - 0xE0⟩
  else if b < 0xF5 then
    .longer ⟨byte, offset, 1, 2, if b = 0xF0 then 0x90 else 0x80,
      if b = 0xF4 then 0x8F else 0xBF, b - 0xF0⟩
  else
    .invalid

/-- The code points and malformed runs of the bytes, in order; `offset` is the place of the first
byte given. -/
def piecesFrom (halves : Bool) : Nat → Option Pending → List UInt8 → List (Except Fault CodePoint)
  | _, none, [] => []
  | _, some pending, [] => [.error (pending.fault .truncated)]
  | offset, some pending, byte :: rest =>
      if pending.accepts byte then
        if pending.more = 0 then
          .ok (.ofNumber (pending.bitsWith byte)) :: piecesFrom halves (offset + 1) none rest
        else
          piecesFrom halves (offset + 1) (some (pending.advance byte)) rest
      else
        .error (pending.fault .continuation) :: match lead halves offset byte with
          | .single number => .ok (.ofNumber number) :: piecesFrom halves (offset + 1) none rest
          | .longer begun => piecesFrom halves (offset + 1) (some begun) rest
          | .invalid =>
              .error ⟨.start, byte, offset, 1⟩ :: piecesFrom halves (offset + 1) none rest
  | offset, none, byte :: rest =>
      match lead halves offset byte with
      | .single number => .ok (.ofNumber number) :: piecesFrom halves (offset + 1) none rest
      | .longer begun => piecesFrom halves (offset + 1) (some begun) rest
      | .invalid => .error ⟨.start, byte, offset, 1⟩ :: piecesFrom halves (offset + 1) none rest

def pieces (halves : Bool) (bytes : List UInt8) : List (Except Fault CodePoint) :=
  piecesFrom halves 0 none bytes

/-- The text of the bytes, or the first malformed run. -/
def decodeWith (halves : Bool) (bytes : List UInt8) : Except Fault (List CodePoint) :=
  (pieces halves bytes).mapM id

/-- Strict UTF-8: lone surrogates are malformed. -/
def decode (bytes : List UInt8) : Except Fault (List CodePoint) :=
  decodeWith false bytes

/-- Strict UTF-8 with each malformed run read as one replacement character. -/
def decodeReplacing (bytes : List UInt8) : List CodePoint :=
  (pieces false bytes).map fun
    | .ok point => point
    | .error _ => .char '\uFFFD'

def encodeChar (char : Char) : List UInt8 :=
  String.utf8EncodeChar char

def encode (text : List Char) : List UInt8 :=
  text.flatMap encodeChar

namespace Fault

private def reason : Flaw → String
  | .start => "invalid start byte"
  | .continuation => "invalid continuation byte"
  | .truncated => "unexpected end of data"

private def hexDigits (byte : UInt8) : String :=
  String.ofList [Nat.digitChar (byte.toNat / 16), Nat.digitChar (byte.toNat % 16)]

/-- One byte is shown with its value, a longer run with its first and last place. -/
def message (fault : Fault) : String :=
  let place :=
    if fault.length = 1 then
      "byte 0x" ++ hexDigits fault.lead ++ " in position " ++ toString fault.offset
    else
      "bytes in position " ++ toString fault.offset ++ "-" ++
        toString (fault.offset + fault.length - 1)
  "'utf-8' codec can't decode " ++ place ++ ": " ++ reason fault.flaw

end Fault

end ImageOwnership.Utf8
