import ImageOwnership.Proofs.Json.Members

/-!
Literals of strings. The grammar tells in how many ways a text can be written between quotation marks;
all of them are read as the text.
-/

namespace ImageOwnership.Json

/-- The characters that have an escape of two characters, after the second one of it. -/
def shortEscapes : List (Char × Char) :=
  [('"', '"'), ('\\', '\\'), ('/', '/'), ('b', '\x08'), ('f', '\x0C'), ('n', '\n'), ('r', '\r'),
    ('t', '\t')]

def IsHexDigit (digit : Char) (value : Nat) : Prop :=
  value < 16 ∧ (digit = value.digitChar ∨ digit = value.digitChar.toUpper)

/-- Four hexadecimal digits, and their number. -/
inductive HexUnit : List Char → Nat → Prop where
  | digits {first second third fourth : Char} {a b c d : Nat} (one : IsHexDigit first a)
      (two : IsHexDigit second b) (three : IsHexDigit third c) (four : IsHexDigit fourth d) :
      HexUnit [first, second, third, fourth] (((a * 16 + b) * 16 + c) * 16 + d)

/-- What stands between the quotation marks of a literal, and the text that it spells. -/
inductive Spells : List Char → List Char → Prop where
  | nil : Spells [] []
  | plain {char : Char} {literal text : List Char} (unquoted : char ≠ '"') (unescaped : char ≠ '\\')
      (printed : 0x20 ≤ char.toNat) (rest : Spells literal text) :
      Spells (char :: literal) (char :: text)
  | escape {mark char : Char} {literal text : List Char} (short : (mark, char) ∈ shortEscapes)
      (rest : Spells literal text) : Spells ('\\' :: mark :: literal) (char :: text)
  | unit {digits literal text : List Char} {char : Char} (number : HexUnit digits char.toNat)
      (rest : Spells literal text) : Spells ('\\' :: 'u' :: (digits ++ literal)) (char :: text)
  /-- Beyond the first plane a character is written as two halves. -/
  | pair {high low literal text : List Char} {char : Char} {upper lower : Nat}
      (first : HexUnit high (0xD800 + upper)) (second : HexUnit low (0xDC00 + lower))
      (short : upper < 0x400) (lowest : lower < 0x400)
      (joined : char.toNat = 0x10000 + upper * 0x400 + lower) (rest : Spells literal text) :
      Spells ('\\' :: 'u' :: (high ++ '\\' :: 'u' :: (low ++ literal))) (char :: text)

/-- Blanks between the parts of a document. -/
def IsBlank (text : List Char) : Prop :=
  ∀ char ∈ text, char ∈ [' ', '\t', '\n', '\r']

/-- How a member with a string as its value may be written. -/
inductive SpellsMember (name value : String) : List Char → Prop where
  | member {one two three four key text : List Char} (before : IsBlank one) (between : IsBlank two)
      (afterwards : IsBlank three) (behind : IsBlank four) (named : Spells key name.toList)
      (valued : Spells text value.toList) :
      SpellsMember name value
        (one ++ '"' :: (key ++ '"' :: (two ++ ':' :: (three ++ '"' :: (text ++ '"' :: four)))))

/-- A text without quotation marks, backslashes and controls spells itself. -/
theorem Spells.self {text : List Char}
    (plain : (text.all fun char => char ≠ '"' && char ≠ '\\' && 0x20 ≤ char.toNat) = true) :
    Spells text text := by
  induction text with
  | nil => exact .nil
  | cons char rest ih =>
      simp only [List.all_cons, Bool.and_eq_true, decide_eq_true_eq] at plain
      obtain ⟨⟨⟨unquoted, unescaped⟩, printed⟩, others⟩ := plain
      exact .plain unquoted unescaped printed (ih (by simpa using others))

namespace Token

theorem hexDigit?_of_isHexDigit {digit : Char} {value : Nat} (hex : IsHexDigit digit value) :
    hexDigit? (.char digit) = some value := by
  have all : ∀ value < 16, hexDigit? (.char value.digitChar) = some value ∧
      hexDigit? (.char value.digitChar.toUpper) = some value := by
    decide
  obtain ⟨small, rfl | rfl⟩ := hex
  · exact (all value small).1
  · exact (all value small).2

theorem pieces?_hexUnit {digits : List Char} {number : Nat} (hex : HexUnit digits number)
    (rest : List CodePoint) :
    pieces? (.char '\\' :: .char 'u' :: (digits.map .char ++ rest)) =
      (pieces? rest).map fun read => (.unit number :: read.1, read.2) := by
  cases hex with
  | @digits first second third fourth a b c d one two three four =>
      have written : unit? (.char first) (.char second) (.char third) (.char fourth) =
          some (((a * 16 + b) * 16 + c) * 16 + d) := by
        simp only [unit?, hexDigit?_of_isHexDigit one, hexDigit?_of_isHexDigit two,
          hexDigit?_of_isHexDigit three, hexDigit?_of_isHexDigit four, Option.bind_eq_bind,
          Option.bind_some]
      exact pieces?_unit written

theorem escape?_of_mem {mark char : Char} (short : (mark, char) ∈ shortEscapes) :
    escape? (.char mark) = some char := by
  have all : ∀ escaped ∈ shortEscapes, escape? (.char escaped.1) = some escaped.2 := by
    decide
  exact all _ short

theorem assemble_unit {number : Nat} (whole : CodePoint.isHighHalf number = false)
    (rest : List Piece) : assemble (.unit number :: rest) = .ofNumber number :: assemble rest := by
  cases rest with
  | nil => rfl
  | cons next rest =>
      cases next with
      | plain point => rfl
      | unit low => rw [assemble, whole, Bool.false_and, if_neg Bool.false_ne_true]

theorem assemble_pair {upper lower : Nat} (short : upper < 0x400) (lowest : lower < 0x400)
    (rest : List Piece) :
    assemble (.unit (0xD800 + upper) :: .unit (0xDC00 + lower) :: rest) =
      .ofNumber (0x10000 + upper * 0x400 + lower) :: assemble rest := by
  have halves :
      (CodePoint.isHighHalf (0xD800 + upper) && CodePoint.isLowHalf (0xDC00 + lower)) = true := by
    simp only [CodePoint.isHighHalf, CodePoint.isLowHalf, Bool.and_eq_true, decide_eq_true_eq]
    omega
  have joined : CodePoint.joinHalves (0xD800 + upper) (0xDC00 + lower) =
      0x10000 + upper * 0x400 + lower := by
    unfold CodePoint.joinHalves
    omega
  rw [assemble, if_pos halves, joined]

end Token

theorem Char.isHighHalf_toNat (char : Char) : CodePoint.isHighHalf char.toNat = false := by
  have valid := char.valid
  simp only [UInt32.isValidChar, Nat.isValidChar] at valid
  have same : char.toNat = char.val.toNat := rfl
  simp only [CodePoint.isHighHalf, Bool.and_eq_false_iff, decide_eq_false_iff_not]
  omega

/-- A literal is read as the text that it spells. -/
theorem Spells.pieces {literal text : List Char} (spells : Spells literal text) :
    ∃ pieces, Token.assemble pieces = text.map .char ∧
      ∀ more, Token.pieces? (literal.map .char ++ .char '"' :: more) = some (pieces, more) := by
  induction spells with
  | nil => exact ⟨[], rfl, fun more => rfl⟩
  | @plain char literal text unquoted unescaped printed _ ih =>
      obtain ⟨pieces, assembled, read⟩ := ih
      refine ⟨.plain (.char char) :: pieces, by simp [Token.assemble, assembled], ?_⟩
      intro more
      have noQuote : CodePoint.char char ≠ .char '"' := by simpa using unquoted
      have noEscape : CodePoint.char char ≠ .char '\\' := by simpa using unescaped
      rw [List.map_cons, List.cons_append, Token.pieces?_plain noQuote noEscape printed, read]
      rfl
  | @escape mark char literal text short _ ih =>
      obtain ⟨pieces, assembled, read⟩ := ih
      refine ⟨.plain (.char char) :: pieces, by simp [Token.assemble, assembled], ?_⟩
      intro more
      rw [List.map_cons, List.map_cons, List.cons_append, List.cons_append,
        Token.pieces?_escape (Token.escape?_of_mem short), read]
      rfl
  | @unit digits literal text char number _ ih =>
      obtain ⟨pieces, assembled, read⟩ := ih
      refine ⟨.unit char.toNat :: pieces, ?_, ?_⟩
      · rw [Token.assemble_unit (Char.isHighHalf_toNat char), CodePoint.ofNumber_toNat, assembled]
        rfl
      · intro more
        rw [List.map_cons, List.map_cons, List.map_append, List.cons_append, List.cons_append,
          List.append_assoc, Token.pieces?_hexUnit number, read]
        rfl
  | @pair high low literal text char upper lower first second short lowest joined _ ih =>
      obtain ⟨pieces, assembled, read⟩ := ih
      refine ⟨.unit (0xD800 + upper) :: .unit (0xDC00 + lower) :: pieces, ?_, ?_⟩
      · rw [Token.assemble_pair short lowest, ← joined, CodePoint.ofNumber_toNat, assembled]
        rfl
      · intro more
        simp only [List.map_cons, List.map_append, List.cons_append, List.append_assoc]
        rw [Token.pieces?_hexUnit first, Token.pieces?_hexUnit second, read]
        rfl

theorem tokens_literal {literal text : List Char} (spells : Spells literal text)
    (rest : List CodePoint) :
    tokens (.char '"' :: (literal.map .char ++ .char '"' :: rest)) =
      .quoted (text.map .char) :: tokens rest := by
  obtain ⟨pieces, assembled, read⟩ := spells.pieces
  rw [tokens_next rfl]
  simp only [Token.next, Token.string, read, assembled]

theorem IsBlank.isBlank {text : List Char} (blank : IsBlank text) :
    ∀ point ∈ text.map CodePoint.char, Token.isBlank point = true := by
  intro point member
  obtain ⟨char, inText, rfl⟩ := List.mem_map.mp member
  have all : ([' ', '\t', '\n', '\r'].all fun char => Token.isBlank (.char char)) = true := by
    decide
  exact List.all_eq_true.mp all char (blank char inText)

theorem SpellsMember.tokens {name value : String} {text : List Char}
    (spells : SpellsMember name value text) :
    Json.tokens (('\x7b' :: (text ++ ['\x7d'])).map .char) =
      [.openObject, .quoted (CodePoint.ofString name), .colon, .quoted (CodePoint.ofString value),
        .closeObject] := by
  have opened : ∀ rest, Json.tokens (.char '\x7b' :: rest) = .openObject :: Json.tokens rest :=
    fun rest => tokens_next rfl rest
  have divided : ∀ rest, Json.tokens (.char ':' :: rest) = .colon :: Json.tokens rest :=
    fun rest => tokens_next rfl rest
  have closed : Json.tokens [.char '\x7d'] = [.closeObject] :=
    (tokens_mark .closeObject []).trans (by rw [tokens_nil]; rfl)
  cases spells with
  | @member one two three four key literal before between afterwards behind named valued =>
      simp only [List.map_cons, List.map_append, List.map_nil, List.append_assoc, List.cons_append]
      rw [opened, tokens_blanks before.isBlank, tokens_literal named, tokens_blanks between.isBlank,
        divided, tokens_blanks afterwards.isBlank, tokens_literal valued,
        tokens_blanks behind.isBlank, closed]
      rfl

/-- However a member is written, it is read as the member. -/
theorem SpellsMember.standsFor {name value : String} {text : List Char}
    (spells : SpellsMember name value text) : StandsFor text (name, .string value) := by
  refine decode?_encode_eq_object_iff.mpr
    ⟨[(CodePoint.ofString name, .string (CodePoint.ofString value))], ?_, ?_⟩
  · rw [parse, spells.tokens]
    rfl
  · simp [mapMembers?, mapText?, CodePoint.toString?_ofString]

end ImageOwnership.Json
