import ImageOwnership.Text.Base64
import ImageOwnership.Text.Quoted
import ImageOwnership.Text.Utf8

/-!
Headers of a request: pairs of a lower-case name and a value. Both are ASCII text; what is not is refused
when a header is written. Their order is not that in which they are sent.
-/

namespace ImageOwnership.Http

/-- The first run of characters of a text that are not ASCII. -/
structure NotAscii where
  first : CodePoint
  position : Nat
  length : Nat
deriving DecidableEq, Repr

/-- A single character is shown by its number, a longer run by its first and last position. -/
def NotAscii.message (fault : NotAscii) : String :=
  let place :=
    if fault.length = 1 then
      "character '" ++ String.ofList (Quoted.numbered fault.first.number) ++ "' in position " ++
        toString fault.position
    else
      "characters in position " ++ toString fault.position ++ "-" ++
        toString (fault.position + fault.length - 1)
  "'ascii' codec can't encode " ++ place ++ ": ordinal not in range(128)"

def isAsciiPoint (point : CodePoint) : Bool :=
  point.number < 0x80

/-- The text as a string, if all of it is ASCII. -/
def ascii (text : List CodePoint) : Except NotAscii String :=
  match text.dropWhile isAsciiPoint with
  | [] => .ok (String.ofList (text.filterMap CodePoint.toChar?))
  | first :: rest =>
      .error ⟨first, (text.takeWhile isAsciiPoint).length,
        ((first :: rest).takeWhile (!isAsciiPoint ·)).length⟩

abbrev Headers := List (String × String)

namespace Headers

/-- The values under a name in one text. -/
def get? (headers : Headers) (name : String) : Option String :=
  match headers.filter (·.1 = name) with
  | [] => none
  | found => some (", ".intercalate (found.map Prod.snd))

def erase (headers : Headers) (name : String) : Headers :=
  headers.filter (·.1 ≠ name)

/-- The headers with each given name replaced by what is given under it. -/
def update (headers given : Headers) : Headers :=
  headers.filter (fun header => !given.any (·.1 = header.1)) ++ given

def set (headers : Headers) (name value : String) : Headers :=
  headers.erase name ++ [(name, value)]

/-- Headers as they are written: the names in any case, the values any text. -/
def write (drafts : List (String × List CodePoint)) : Except NotAscii Headers :=
  drafts.mapM fun (name, value) => do
    let key ← ascii (CodePoint.ofString name)
    let text ← ascii value
    return (key.toLower, text)

end Headers

/-- The value of the authorization header for a name and a password. -/
def basicCredentials (credentials : String × String) : String :=
  let (name, password) := credentials
  "Basic " ++ String.ofList (Base64.encode (Utf8.encode (name.toList ++ ':' :: password.toList)))

end ImageOwnership.Http
