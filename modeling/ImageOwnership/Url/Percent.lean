import ImageOwnership.Text.Utf8

/-!
Percent encoding. A byte is written as a percent sign and two upper-case digits; the percent sign is
itself among the characters that stay, so that what is encoded already stays as it is.
-/

namespace ImageOwnership.Percent

/-- The upper-case hexadecimal digit of a number below sixteen. -/
def hexDigit (value : Nat) : Char :=
  (Nat.digitChar value).toUpper

def encodeByte (byte : UInt8) : List Char :=
  ['%', hexDigit (byte.toNat / 16), hexDigit (byte.toNat % 16)]

/-- A character as such if it is safe, and as the bytes of its UTF-8 form otherwise. -/
def encodeChar (safe : Char → Bool) (char : Char) : List Char :=
  if safe char then [char] else (Utf8.encodeChar char).flatMap encodeByte

def encode (safe : Char → Bool) (text : List Char) : List Char :=
  text.flatMap (encodeChar safe)

def hexValue? (char : Char) : Option Nat :=
  if char.isDigit then some (char.toNat - '0'.toNat)
  else if 'a' ≤ char && char ≤ 'f' then some (char.toNat - 'a'.toNat + 10)
  else if 'A' ≤ char && char ≤ 'F' then some (char.toNat - 'A'.toNat + 10)
  else none

/-- The byte that two digits spell. -/
def byte? (high low : Char) : Option UInt8 := do
  let first ← hexValue? high
  let second ← hexValue? low
  some (UInt8.ofNat (16 * first + second))

/-- The bytes of an encoded text; a percent sign without two digits after it stands for itself. -/
def decodeBytes : List Char → List UInt8
  | [] => []
  | '%' :: high :: low :: rest =>
      match byte? high low with
      | some byte => byte :: decodeBytes rest
      | none => Utf8.encodeChar '%' ++ decodeBytes (high :: low :: rest)
  | char :: rest => Utf8.encodeChar char ++ decodeBytes rest

/-- The encoded text with what is not UTF-8 replaced. -/
def decode (text : List Char) : List Char :=
  (Utf8.decodeReplacing (decodeBytes text)).filterMap CodePoint.toChar?

end ImageOwnership.Percent
