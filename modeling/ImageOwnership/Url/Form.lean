import ImageOwnership.Url.Percent

/-!
Form encoding of parameters: `name=value` pairs divided by `&`, with a plus sign for the space and all
but letters, digits and four marks percent encoded. `decode` reads the pairs back.
-/

namespace ImageOwnership.Form

def isSafe (char : Char) : Bool :=
  char.isAlphanum || char = '-' || char = '.' || char = '_' || char = '~'

def encodeChar (char : Char) : List Char :=
  if char = ' ' then ['+'] else Percent.encodeChar isSafe char

def encodeText (text : List Char) : List Char :=
  text.flatMap encodeChar

def encodePair (pair : List Char × List Char) : List Char :=
  encodeText pair.1 ++ '=' :: encodeText pair.2

def encode (pairs : List (List Char × List Char)) : List Char :=
  ['&'].intercalate (pairs.map encodePair)

def decodeText (text : List Char) : List Char :=
  Percent.decode (text.map fun char => if char = '+' then ' ' else char)

def decodePair (text : List Char) : List Char × List Char :=
  (decodeText (text.takeWhile (· ≠ '=')), decodeText ((text.dropWhile (· ≠ '=')).drop 1))

/-- The pairs of an encoded text; the empty text has none. -/
def decode (text : List Char) : List (List Char × List Char) :=
  if text.isEmpty then [] else (text.splitOn '&').map decodePair

end ImageOwnership.Form
