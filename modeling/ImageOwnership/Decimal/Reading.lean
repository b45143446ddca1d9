import ImageOwnership.Decimal.Numeral
import ImageOwnership.Text.Blank
import ImageOwnership.Text.DecimalDigit
import ImageOwnership.Text.Quoted

/-!
Numbers written as text by a person: blanks may stand around them, digits may be of any script, and a
single underscore may stand between two digits.
-/

namespace ImageOwnership.Reading

/-- The greatest number of digits of an integer that is read. -/
def digitLimit : Nat := 4300

/-- Why a text is no number. -/
inductive Fault where
  | notReal (text : String)
  | notInteger (text : String)
  | tooManyDigits (count : Nat)
deriving DecidableEq, Repr

def Fault.message : Fault → String
  | .notReal text => "could not convert string to float: " ++ Quoted.quoteString text
  | .notInteger text =>
      "invalid literal for int() with base 10: " ++
        String.ofList ((Quoted.quote (CodePoint.ofString text)).take 200)
  | .tooManyDigits count =>
      "Exceeds the limit (4300 digits) for integer string conversion: value has " ++
        toString count ++ " digits; use sys.set_int_max_str_digits() to increase the limit"

/-- The sign that a text begins with, and the rest of it. -/
def takeSign : List Char → Bool × List Char
  | '-' :: rest => (true, rest)
  | '+' :: rest => (false, rest)
  | text => (false, text)

def isDigit (char : Char) : Bool :=
  (DecimalDigit.value? char).isSome

/-- Whether each underscore stands between two digits; `digit` tells whether one came just before. -/
def underscoresDivide (digit : Bool) : List Char → Bool
  | [] => true
  | ['_'] => false
  | '_' :: next :: rest => digit && isDigit next && underscoresDivide true rest
  | char :: rest => underscoresDivide (isDigit char) rest

/-- The leading digits and underscores of a text, and the rest of it. -/
def takeGroups (text : List Char) : List Char × List Char :=
  text.span fun char => isDigit char || char = '_'

/-- A whole number: digits with an optional sign. A text with too many digits is refused as such even
when something else follows them. -/
def integer (text : String) : Except Fault Int :=
  let (negative, unsigned) := takeSign (text.toList.dropWhile Blank.isBlank)
  let (groups, rest) := takeGroups unsigned
  let digits := groups.filterMap DecimalDigit.value?
  if groups.isEmpty || !underscoresDivide false groups then
    .error (.notInteger text)
  else if digits.length > digitLimit then
    .error (.tooManyDigits digits.length)
  else if (rest.dropWhile Blank.isBlank).isEmpty then
    .ok (Numeral.integer negative digits)
  else
    .error (.notInteger text)

/-- The power of ten that a text consists of, nothing when it is empty. -/
def exponent? : List Char → Option Int
  | [] => some 0
  | mark :: text =>
      if mark = 'e' || mark = 'E' then
        let (negative, unsigned) := takeSign text
        match Numeral.takeDigits DecimalDigit.value? unsigned with
        | (first :: digits, []) => some (Numeral.integer negative (first :: digits))
        | _ => none
      else
        none

/-- Digits with an optional point and exponent; at least one digit stands beside the point. -/
def numeral? (negative : Bool) (text : List Char) : Option Numeral :=
  let (whole, afterWhole) := Numeral.takeDigits DecimalDigit.value? text
  let (fraction, rest) := match afterWhole with
    | '.' :: afterPoint => Numeral.takeDigits DecimalDigit.value? afterPoint
    | _ => ([], afterWhole)
  if whole.isEmpty && fraction.isEmpty then
    none
  else
    (exponent? rest).map (⟨negative, whole, fraction, ·⟩)

/-- A number, or one of the words for infinity and for no number, in any case. -/
def unsignedReal? (negative : Bool) (text : List Char) : Option Binary64 :=
  let word := String.ofList (text.map Char.toLower)
  if word = "inf" || word = "infinity" then
    some (.infinite negative)
  else if word = "nan" then
    some .nan
  else
    (numeral? negative text).map Numeral.toBinary64

def real (text : String) : Except Fault Binary64 :=
  let trimmed := Blank.trim text.toList
  if underscoresDivide false trimmed then
    let (negative, unsigned) := takeSign (trimmed.filter (· ≠ '_'))
    match unsignedReal? negative unsigned with
    | some value => .ok value
    | none => .error (.notReal text)
  else
    .error (.notReal text)

end ImageOwnership.Reading
