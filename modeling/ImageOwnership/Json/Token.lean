import ImageOwnership.Decimal.Reading
import ImageOwnership.Json.Basic

/-!
The tokens of a JSON text. A place where no token can be read gives `malformed`, and reading goes no
further. A number is kept as it is written, because how long one may be depends on the reader.
-/

namespace ImageOwnership.Json

/-- A number as it is written. -/
structure Number where
  negative : Bool
  whole : List Nat
  fraction : List Nat
  exponent? : Option Int
deriving DecidableEq, Repr

namespace Number

/-- Whether there is neither a point nor a power of ten. -/
def isInteger (number : Number) : Bool :=
  number.fraction.isEmpty && number.exponent?.isNone

def value {Text : Type} (number : Number) : Json Text :=
  if number.isInteger then
    .integer (Numeral.integer number.negative number.whole)
  else
    .real (Numeral.toBinary64
      ⟨number.negative, number.whole, number.fraction, number.exponent?.getD 0⟩)

end Number

inductive Token where
  | openArray
  | closeArray
  | openObject
  | closeObject
  | comma
  | colon
  /-- A word. -/
  | atom (value : Json (List CodePoint))
  | numeric (number : Number)
  | quoted (points : List CodePoint)
  | malformed

namespace Token

def isBlank (point : CodePoint) : Bool :=
  point = .char ' ' || point = .char '\t' || point = .char '\n' || point = .char '\r'

def digit? : CodePoint → Option Nat
  | .char char => if char.isDigit then some (char.toNat - '0'.toNat) else none
  | .surrogate _ => none

def hexDigit? : CodePoint → Option Nat
  | .char char =>
      if char.isDigit then some (char.toNat - '0'.toNat)
      else if 'a' ≤ char && char ≤ 'f' then some (char.toNat - 'a'.toNat + 10)
      else if 'A' ≤ char && char ≤ 'F' then some (char.toNat - 'A'.toNat + 10)
      else none
  | .surrogate _ => none

/-- What stands in a string: a code point as such, or an escaped UTF-16 unit. -/
inductive Piece where
  | plain (point : CodePoint)
  | unit (number : Nat)

/-- The character that a backslash and a letter or mark stand for. -/
def escape? : CodePoint → Option Char
  | .char '"' => some '"'
  | .char '\\' => some '\\'
  | .char '/' => some '/'
  | .char 'b' => some '\x08'
  | .char 'f' => some '\x0C'
  | .char 'n' => some '\n'
  | .char 'r' => some '\r'
  | .char 't' => some '\t'
  | _ => none

def unit? (first second third fourth : CodePoint) : Option Nat := do
  let a ← hexDigit? first
  let b ← hexDigit? second
  let c ← hexDigit? third
  let d ← hexDigit? fourth
  some (((a * 16 + b) * 16 + c) * 16 + d)

/-- The pieces of a string up to its closing mark, and the text after the mark. -/
def pieces? : List CodePoint → Option (List Piece × List CodePoint)
  | [] => none
  | .char '"' :: rest => some ([], rest)
  | .char '\\' :: .char 'u' :: first :: second :: third :: fourth :: rest => do
      let number ← unit? first second third fourth
      let (others, after) ← pieces? rest
      some (.unit number :: others, after)
  | .char '\\' :: mark :: rest => do
      let char ← escape? mark
      let (others, after) ← pieces? rest
      some (.plain (.char char) :: others, after)
  | point :: rest =>
      if point = .char '\\' || point.number < 0x20 then
        none
      else do
        let (others, after) ← pieces? rest
        some (.plain point :: others, after)

/-- The text of the pieces: an escaped high half and an escaped low half right after it are one
character. -/
def assemble : List Piece → List CodePoint
  | [] => []
  | .plain point :: rest => point :: assemble rest
  | .unit high :: .unit low :: rest =>
      if CodePoint.isHighHalf high && CodePoint.isLowHalf low then
        .ofNumber (CodePoint.joinHalves high low) :: assemble rest
      else
        .ofNumber high :: assemble (.unit low :: rest)
  | .unit number :: rest => .ofNumber number :: assemble rest

/-- A token that ends the reading. -/
def stop : Token × List CodePoint :=
  (.malformed, [])

def string (text : List CodePoint) : Token × List CodePoint :=
  match pieces? text with
  | some (pieces, rest) => (.quoted (assemble pieces), rest)
  | none => stop

/-- The rest of a word. -/
def word (letters : List Char) (value : Json (List CodePoint)) (text : List CodePoint) :
    Token × List CodePoint :=
  if text.take letters.length = letters.map .char then
    (.atom value, text.drop letters.length)
  else
    stop

/-- The digits before the point; a zero stands alone. -/
def whole : List CodePoint → List Nat × List CodePoint
  | .char '0' :: rest => ([0], rest)
  | text => Numeral.takeDigits digit? text

/-- A point with digits after it; a point without them is left in place. -/
def fraction (text : List CodePoint) : List Nat × List CodePoint :=
  match text with
  | .char '.' :: rest =>
      let read := Numeral.takeDigits digit? rest
      if read.1.isEmpty then ([], text) else read
  | _ => ([], text)

def exponentSign : List CodePoint → Bool × List CodePoint
  | .char '-' :: rest => (true, rest)
  | .char '+' :: rest => (false, rest)
  | text => (false, text)

/-- A power of ten; a mark without digits is left in place. -/
def exponent (text : List CodePoint) : Option Int × List CodePoint :=
  match text with
  | .char mark :: rest =>
      if mark = 'e' || mark = 'E' then
        let signed := exponentSign rest
        let read := Numeral.takeDigits digit? signed.2
        if read.1.isEmpty then (none, text) else (some (Numeral.integer signed.1 read.1), read.2)
      else
        (none, text)
  | _ => (none, text)

def number (negative : Bool) (text : List CodePoint) : Token × List CodePoint :=
  let digits := whole text
  let decimals := fraction digits.2
  let power := exponent decimals.2
  if digits.1.isEmpty then
    stop
  else
    (.numeric ⟨negative, digits.1, decimals.1, power.1⟩, power.2)

/-- The token that begins with a code point, and the text after the token. -/
def next (first : CodePoint) (rest : List CodePoint) : Token × List CodePoint :=
  match first with
  | .char '[' => (.openArray, rest)
  | .char ']' => (.closeArray, rest)
  | .char '\x7b' => (.openObject, rest)
  | .char '\x7d' => (.closeObject, rest)
  | .char ',' => (.comma, rest)
  | .char ':' => (.colon, rest)
  | .char '"' => string rest
  | .char 'n' => word ['u', 'l', 'l'] .null rest
  | .char 't' => word ['r', 'u', 'e'] (.boolean true) rest
  | .char 'f' => word ['a', 'l', 's', 'e'] (.boolean false) rest
  | .char 'N' => word ['a', 'N'] (.real .nan) rest
  | .char 'I' => word "nfinity".toList (.real (.infinite false)) rest
  | .char '-' =>
      match rest with
      | .char 'I' :: after => word "nfinity".toList (.real (.infinite true)) after
      | _ => number true rest
  | _ => number false (first :: rest)

theorem length_pieces? (text : List CodePoint) :
    ∀ pieces rest, pieces? text = some (pieces, rest) → rest.length ≤ text.length := by
  fun_induction pieces? text with
  | case1 => simp
  | case2 rest => simp
  | case3 first second third fourth rest induction =>
      intro pieces after found
      simp only [Option.bind_eq_bind, Option.bind_eq_some_iff, Option.some.injEq, Prod.mk.injEq]
        at found
      obtain ⟨_, _, ⟨_, _⟩, read, _, rfl⟩ := found
      have := induction _ _ read
      simp only [List.length_cons]
      omega
  | case4 mark rest _ induction =>
      intro pieces after found
      simp only [Option.bind_eq_bind, Option.bind_eq_some_iff, Option.some.injEq, Prod.mk.injEq]
        at found
      obtain ⟨_, _, ⟨_, _⟩, read, _, rfl⟩ := found
      have := induction _ _ read
      simp only [List.length_cons]
      omega
  | case5 => simp
  | case6 point rest _ _ _ _ induction =>
      intro pieces after found
      simp only [Option.bind_eq_bind, Option.bind_eq_some_iff, Option.some.injEq, Prod.mk.injEq]
        at found
      obtain ⟨⟨_, _⟩, read, _, rfl⟩ := found
      have := induction _ _ read
      simp only [List.length_cons]
      omega

theorem length_string (text : List CodePoint) : (string text).2.length ≤ text.length := by
  simp only [string]
  split
  · exact length_pieces? text _ _ ‹_›
  · simp [stop]

theorem length_word (letters : List Char) (value : Json (List CodePoint))
    (text : List CodePoint) : (word letters value text).2.length ≤ text.length := by
  simp only [word]
  split <;> simp [stop]

theorem length_fraction (text : List CodePoint) : (fraction text).2.length ≤ text.length := by
  unfold fraction
  split
  · rename_i rest
    have := Numeral.length_takeDigits digit? rest
    dsimp only
    split <;> simp only [List.length_cons] <;> omega
  · simp

theorem length_exponentSign (text : List CodePoint) :
    (exponentSign text).2.length ≤ text.length := by
  unfold exponentSign
  split <;> simp

theorem length_exponent (text : List CodePoint) : (exponent text).2.length ≤ text.length := by
  unfold exponent
  split
  · rename_i mark rest
    have sign := length_exponentSign rest
    have digits := Numeral.length_takeDigits digit? (exponentSign rest).2
    dsimp only
    split
    · split <;> simp only [List.length_cons] <;> omega
    · simp
  · simp

theorem length_whole (text : List CodePoint) :
    (whole text).1.length + (whole text).2.length = text.length := by
  unfold whole
  split
  · simp [Nat.add_comm]
  · exact Numeral.length_takeDigits digit? text

theorem length_number (negative : Bool) (text : List CodePoint) :
    (number negative text).2.length ≤ text.length - 1 := by
  have digits := length_whole text
  have decimals := length_fraction (whole text).2
  have power := length_exponent (fraction (whole text).2).2
  simp only [number]
  split
  · simp [stop]
  · rename_i some
    have := List.length_pos_iff.mpr (by simpa using some)
    simp only
    omega

/-- A token takes at least the code point that it begins with. -/
theorem length_next (first : CodePoint) (rest : List CodePoint) :
    (next first rest).2.length ≤ rest.length := by
  unfold next
  split
  all_goals first
    | exact Nat.le_refl _
    | exact length_string rest
    | exact length_word _ _ rest
    | skip
  · split
    · rename_i after
      have := length_word "nfinity".toList (.real (.infinite true)) after
      simp only [List.length_cons]
      omega
    · have := length_number true rest
      omega
  · exact length_number false (first :: rest)

end Token

/-- The tokens of a text; blanks divide them. -/
def tokens : List CodePoint → List Token
  | [] => []
  | first :: rest =>
      if Token.isBlank first then
        tokens rest
      else
        (Token.next first rest).1 :: tokens (Token.next first rest).2
termination_by text => text.length
decreasing_by
  · simp
  · have := Token.length_next first rest
    simp only [List.length_cons]
    omega

end ImageOwnership.Json
