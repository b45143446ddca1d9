import ImageOwnership.Decimal.Notation
import ImageOwnership.Json.Parsing
import ImageOwnership.Text.Quoted

/-!
The text that a JSON value is written as where plain text is needed: a string stands for itself, and
quoted inside a container; a repeated member keeps its first place and its last value.
-/

namespace ImageOwnership.Json

private def plain (text : String) : List CodePoint :=
  CodePoint.ofString text

private def quoted (text : List CodePoint) : List CodePoint :=
  (Quoted.quote text).map .char

mutual

/-- A value inside a container. -/
def displayPart : Read → List CodePoint
  | .null => plain "None"
  | .boolean value => plain (if value then "True" else "False")
  | .integer value => plain (toString value)
  | .real value => value.toChars.map .char
  | .string text => quoted text
  | .array items =>
      plain "[" ++ (plain ", ").intercalate (displayItems items) ++ plain "]"
  | .object members =>
      let shown := (uniqueMembers (displayMembers members)).map fun (name, value) =>
        quoted name ++ plain ": " ++ value
      plain "\x7b" ++ (plain ", ").intercalate shown ++ plain "\x7d"

def displayItems : List Read → List (List CodePoint)
  | [] => []
  | item :: rest => displayPart item :: displayItems rest

def displayMembers : List (List CodePoint × Read) → List (List CodePoint × List CodePoint)
  | [] => []
  | (name, value) :: rest => (name, displayPart value) :: displayMembers rest

end

def display : Read → List CodePoint
  | .string text => text
  | value => displayPart value

/-- Whether a value counts as nothing: it is null, false, zero or empty. -/
def isEmpty : Read → Bool
  | .null => true
  | .boolean value => !value
  | .integer value => value = 0
  | .real value => value.isZero
  | .string text => text.isEmpty
  | .array items => items.isEmpty
  | .object members => members.isEmpty

end ImageOwnership.Json
