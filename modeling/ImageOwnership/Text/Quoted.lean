import ImageOwnership.Text.Printable

/-!
Text between quotation marks, as it stands in a message. The mark is the single one, unless the text
holds that one and not the double one. The mark itself and the backslash are escaped, and so is all
that cannot be shown.
-/

namespace ImageOwnership.Quoted

/-- The lower-case hexadecimal digits of a number, padded to a width. -/
def hexDigits (width number : Nat) : List Char :=
  let digits := Nat.toDigits 16 number
  List.replicate (width - digits.length) '0' ++ digits

/-- The mark that surrounds a text. -/
def mark (text : List CodePoint) : Char :=
  if text.contains (.char '\'') && !text.contains (.char '"') then '"' else '\''

/-- A code point by its number: two digits after `x`, four after `u` or eight after `U`. -/
def numbered (number : Nat) : List Char :=
  if number ≤ 0xFF then
    '\\' :: 'x' :: hexDigits 2 number
  else if number ≤ 0xFFFF then
    '\\' :: 'u' :: hexDigits 4 number
  else
    '\\' :: 'U' :: hexDigits 8 number

/-- One code point inside the given marks. -/
def escaped (mark : Char) : CodePoint → List Char
  | .char '\\' => ['\\', '\\']
  | .char '\t' => ['\\', 't']
  | .char '\n' => ['\\', 'n']
  | .char '\r' => ['\\', 'r']
  | .char char =>
      if char = mark then
        ['\\', char]
      else if Printable.isPrintable (.char char) then
        [char]
      else
        numbered char.toNat
  | .surrogate offset => numbered (CodePoint.surrogate offset).number

/-- The text between its marks. -/
def quote (text : List CodePoint) : List Char :=
  mark text :: text.flatMap (escaped (mark text)) ++ [mark text]

def quoteString (text : String) : String :=
  String.ofList (quote (CodePoint.ofString text))

end ImageOwnership.Quoted
