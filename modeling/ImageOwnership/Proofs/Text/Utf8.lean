import ImageOwnership.Proofs.Result
import ImageOwnership.Text.Utf8

/-!
Text that is encoded is decoded again, and nothing else is decoded. A character takes one to four bytes;
its lead byte announces how many, and each byte after it lies where the lead lets it lie.
-/

namespace ImageOwnership

theorem CodePoint.ofNumber_toNat (char : Char) : ofNumber char.toNat = .char char := by
  have found : ofNumber? (CodePoint.char char).number = some (.char char) := ofNumber?_number _
  rw [ofNumber, show ofNumber? char.toNat = _ from found, Option.getD_some]

namespace Utf8

section Steps

variable {halves : Bool} {offset byte : Nat} {pending : Pending} {rest : List UInt8}

theorem toNat_ofNat (small : byte < 256) : (UInt8.ofNat byte).toNat = byte := by
  simp only [UInt8.toNat_ofNat']
  omega

/-- Between the lead byte and the last one. -/
theorem piecesFrom_middle (small : byte < 256) (within : pending.low ≤ byte ∧ byte ≤ pending.high)
    (more : pending.more ≠ 0) :
    piecesFrom halves offset (some pending) (.ofNat byte :: rest) =
      piecesFrom halves (offset + 1)
        (some { pending with
          read := pending.read + 1
          more := pending.more - 1
          low := 0x80
          high := 0xBF
          bits := pending.bits * 64 + byte % 64 }) rest := by
  have accepted : pending.accepts (.ofNat byte) = true := by
    simpa [Pending.accepts, toNat_ofNat small] using within
  simp only [piecesFrom, accepted, more, if_true, if_false, Pending.advance, Pending.bitsWith,
    toNat_ofNat small]

theorem piecesFrom_last (small : byte < 256) (within : pending.low ≤ byte ∧ byte ≤ pending.high)
    (last : pending.more = 0) :
    piecesFrom halves offset (some pending) (.ofNat byte :: rest) =
      .ok (.ofNumber (pending.bits * 64 + byte % 64)) ::
        piecesFrom halves (offset + 1) none rest := by
  have accepted : pending.accepts (.ofNat byte) = true := by
    simpa [Pending.accepts, toNat_ofNat small] using within
  simp only [piecesFrom, accepted, last, if_true, Pending.bitsWith, toNat_ofNat small]

theorem piecesFrom_lead (announced : lead halves offset (.ofNat byte) = .longer pending) :
    piecesFrom halves offset none (.ofNat byte :: rest) =
      piecesFrom halves (offset + 1) (some pending) rest := by
  simp only [piecesFrom, announced]

theorem lead_single (ascii : byte < 0x80) : lead halves offset (.ofNat byte) = .single byte := by
  rw [lead, toNat_ofNat (by omega)]
  exact if_pos ascii

theorem lead_two (long : 2 ≤ byte) (short : byte < 32) :
    lead halves offset (.ofNat (byte + 0xC0)) =
      .longer ⟨.ofNat (byte + 0xC0), offset, 1, 0, 0x80, 0xBF, byte⟩ := by
  rw [lead, toNat_ofNat (by omega), if_neg (by omega), if_neg (by omega), if_pos (by omega),
    Nat.add_sub_cancel]

theorem lead_three (short : byte < 16) :
    lead false offset (.ofNat (byte + 0xE0)) =
      .longer ⟨.ofNat (byte + 0xE0), offset, 1, 1, if byte = 0 then 0xA0 else 0x80,
        if byte = 13 then 0x9F else 0xBF, byte⟩ := by
  rw [lead, toNat_ofNat (by omega), if_neg (by omega), if_neg (by omega), if_neg (by omega),
    if_pos (by omega), Nat.add_sub_cancel]
  simp

theorem lead_four (short : byte < 5) :
    lead halves offset (.ofNat (byte + 0xF0)) =
      .longer ⟨.ofNat (byte + 0xF0), offset, 1, 2, if byte = 0 then 0x90 else 0x80,
        if byte = 4 then 0x8F else 0xBF, byte⟩ := by
  rw [lead, toNat_ofNat (by omega), if_neg (by omega), if_neg (by omega), if_neg (by omega),
    if_neg (by omega), if_pos (by omega), Nat.add_sub_cancel]
  simp

end Steps

/-- A character that is encoded is the next piece, and reading goes on after its bytes. -/
theorem piecesFrom_encodeChar (char : Char) (offset : Nat) (rest : List UInt8) :
    ∃ next, piecesFrom false offset none (encodeChar char ++ rest) =
      .ok (.char char) :: piecesFrom false next none rest := by
  have valid : char.toNat < 0xD800 ∨ 0xE000 ≤ char.toNat ∧ char.toNat < 0x110000 := by
    have := char.valid
    simp only [UInt32.isValidChar, Nat.isValidChar] at this
    have same : char.toNat = char.val.toNat := rfl
    omega
  rw [← CodePoint.ofNumber_toNat]
  simp only [encodeChar, String.utf8EncodeChar]
  rw [show char.val.toNat = char.toNat from rfl]
  generalize char.toNat = number at valid
  -- The number is cut into six bits for each byte after the lead, which gets what is left.
  split
  · refine ⟨offset + 1, ?_⟩
    simp only [List.singleton_append, piecesFrom, lead_single (show number < 0x80 by omega)]
  · split
    · refine ⟨offset + 2, ?_⟩
      rw [List.cons_append, piecesFrom_lead (lead_two (by omega) (by omega)), List.singleton_append,
        piecesFrom_last (by omega) (by simp only; omega) rfl,
        show number / 64 % 32 * 64 + (number % 64 + 128) % 64 = number by omega]
    · split
      · refine ⟨offset + 3, ?_⟩
        rw [List.cons_append, piecesFrom_lead (lead_three (by omega)), List.cons_append,
          piecesFrom_middle (by omega) (by simp only; split <;> split <;> omega) (by simp),
          List.singleton_append, piecesFrom_last (by omega) (by simp only; omega) rfl,
          show (number / 4096 % 16 * 64 + (number / 64 % 64 + 128) % 64) * 64 +
            (number % 64 + 128) % 64 = number by omega]
      · refine ⟨offset + 4, ?_⟩
        rw [List.cons_append, piecesFrom_lead (lead_four (by omega)), List.cons_append,
          piecesFrom_middle (by omega) (by simp only; split <;> split <;> omega) (by simp),
          List.cons_append, piecesFrom_middle (by omega) (by simp only; omega) (by simp),
          List.singleton_append, piecesFrom_last (by omega) (by simp only; omega) rfl,
          show ((number / 262144 % 8 * 64 + (number / 4096 % 64 + 128) % 64) * 64 +
            (number / 64 % 64 + 128) % 64) * 64 + (number % 64 + 128) % 64 = number by omega]

theorem piecesFrom_encode (text : List Char) (offset : Nat) :
    piecesFrom false offset none (encode text) = text.map (.ok ∘ .char) := by
  induction text generalizing offset with
  | nil => rfl
  | cons char rest ih =>
      obtain ⟨next, read⟩ := piecesFrom_encodeChar char offset (encode rest)
      rw [encode, List.flatMap_cons, ← encode, read, ih]
      rfl

/-- Text that is encoded is decoded again. -/
theorem decode_encode (text : List Char) : decode (encode text) = .ok (text.map .char) := by
  rw [decode, decodeWith, pieces, piecesFrom_encode]
  induction text with
  | nil => rfl
  | cons char rest ih =>
      simp only [List.map_cons, Function.comp_apply, List.mapM_cons, id_eq] at ih ⊢
      rw [ih]
      rfl

/-! ### Bytes that are decoded -/

/-- Bytes with no malformed run in them, and their code points. -/
def DecodesFrom (offset : Nat) (pending : Option Pending) (bytes : List UInt8)
    (points : List CodePoint) : Prop :=
  (piecesFrom false offset pending bytes).mapM id = .ok points

namespace DecodesFrom

variable {offset : Nat} {pending : Pending} {first : UInt8} {bytes rest : List UInt8}
  {points : List CodePoint}

theorem not_error {fault : Fault} {pieces : List (Except Fault CodePoint)} :
    (.error fault :: pieces).mapM id ≠ .ok points := by
  simp [List.mapM_cons, bind, Except.bind]

theorem of_ok {point : CodePoint} {pieces : List (Except Fault CodePoint)}
    (decoded : (.ok point :: pieces).mapM id = .ok points) :
    ∃ others, points = point :: others ∧ pieces.mapM id = .ok others := by
  rw [List.mapM_cons, id_eq, Result.ok_bind] at decoded
  obtain ⟨others, later, same⟩ := Result.bind_eq_ok.mp decoded
  cases same
  exact ⟨others, rfl, later⟩

/-- A sequence that has begun goes on with a byte that it lets follow. -/
theorem accepted (decodes : DecodesFrom offset (some pending) bytes points) :
    ∃ byte rest, bytes = byte :: rest ∧ pending.low ≤ byte.toNat ∧ byte.toNat ≤ pending.high ∧
      ((pending.more ≠ 0 ∧ DecodesFrom (offset + 1) (some (pending.advance byte)) rest points) ∨
        (pending.more = 0 ∧ ∃ others, points = .ofNumber (pending.bitsWith byte) :: others ∧
          DecodesFrom (offset + 1) none rest others)) := by
  cases bytes with
  | nil => exact absurd decodes not_error
  | cons byte rest =>
      unfold DecodesFrom piecesFrom at decodes
      cases accepts : pending.accepts byte with
      | false =>
          simp only [accepts] at decodes
          exact absurd decodes not_error
      | true =>
          simp only [accepts, if_true] at decodes
          simp only [Pending.accepts, Bool.and_eq_true, decide_eq_true_eq] at accepts
          refine ⟨byte, rest, rfl, accepts.1, accepts.2, ?_⟩
          split at decodes
          · rename_i last
            exact .inr ⟨last, of_ok decodes⟩
          · rename_i more
            exact .inl ⟨more, decodes⟩

theorem last (decodes : DecodesFrom offset (some pending) bytes points) (last : pending.more = 0) :
    ∃ byte rest others, bytes = byte :: rest ∧ (pending.low ≤ byte.toNat ∧ byte.toNat ≤ pending.high) ∧
      points = .ofNumber (pending.bitsWith byte) :: others ∧
        DecodesFrom (offset + 1) none rest others := by
  obtain ⟨byte, rest, rfl, low, high, ⟨more, _⟩ | ⟨_, others, rfl, later⟩⟩ := decodes.accepted
  · exact absurd last more
  · exact ⟨byte, rest, others, rfl, ⟨low, high⟩, rfl, later⟩

theorem middle (decodes : DecodesFrom offset (some pending) bytes points) (more : pending.more ≠ 0) :
    ∃ byte rest, bytes = byte :: rest ∧ (pending.low ≤ byte.toNat ∧ byte.toNat ≤ pending.high) ∧
      DecodesFrom (offset + 1) (some (pending.advance byte)) rest points := by
  obtain ⟨byte, rest, rfl, low, high, ⟨_, later⟩ | ⟨last, _⟩⟩ := decodes.accepted
  · exact ⟨byte, rest, rfl, ⟨low, high⟩, later⟩
  · exact absurd last more

end DecodesFrom

theorem exists_char (number : Nat) (valid : number < 0xD800 ∨ 0xE000 ≤ number ∧ number < 0x110000) :
    ∃ char : Char, char.toNat = number := by
  have scalar : number.isValidChar := by
    simp only [Nat.isValidChar]
    omega
  exact ⟨Char.ofNatAux number scalar, rfl⟩

theorem ofNat_eq {number : Nat} (byte : UInt8) (same : number = byte.toNat) :
    UInt8.ofNat number = byte := by
  rw [same, UInt8.ofNat_toNat]

section

variable {char : Char} {one two three four : UInt8}

theorem encodeChar_one (number : char.toNat = one.toNat) (short : one.toNat < 0x80) :
    encodeChar char = [one] := by
  have number : char.val.toNat = one.toNat := number
  simp only [encodeChar, String.utf8EncodeChar, number]
  rw [if_pos (by omega), UInt8.ofNat_toNat]

theorem encodeChar_two (number : char.toNat = (one.toNat - 0xC0) * 64 + two.toNat % 64)
    (lead : 0xC2 ≤ one.toNat ∧ one.toNat < 0xE0) (last : 0x80 ≤ two.toNat ∧ two.toNat ≤ 0xBF) :
    encodeChar char = [one, two] := by
  have number : char.val.toNat = (one.toNat - 0xC0) * 64 + two.toNat % 64 := number
  simp only [encodeChar, String.utf8EncodeChar, number]
  rw [if_neg (by omega), if_pos (by omega), ofNat_eq one (by omega),
    ofNat_eq two (by omega)]

theorem encodeChar_three
    (number : char.toNat = ((one.toNat - 0xE0) * 64 + two.toNat % 64) * 64 + three.toNat % 64)
    (lead : 0xE0 ≤ one.toNat ∧ one.toNat < 0xF0) (long : 0x800 ≤ char.toNat)
    (middle : 0x80 ≤ two.toNat ∧ two.toNat ≤ 0xBF) (last : 0x80 ≤ three.toNat ∧ three.toNat ≤ 0xBF) :
    encodeChar char = [one, two, three] := by
  have same : char.val.toNat = char.toNat := rfl
  simp only [encodeChar, String.utf8EncodeChar, same]
  rw [if_neg (by omega), if_neg (by omega), if_pos (by omega), ofNat_eq one (by omega),
    ofNat_eq two (by omega), ofNat_eq three (by omega)]

theorem encodeChar_four
    (number : char.toNat = (((one.toNat - 0xF0) * 64 + two.toNat % 64) * 64 + three.toNat % 64) * 64 +
      four.toNat % 64)
    (lead : 0xF0 ≤ one.toNat ∧ one.toNat < 0xF5) (long : 0x10000 ≤ char.toNat)
    (second : 0x80 ≤ two.toNat ∧ two.toNat ≤ 0xBF) (third : 0x80 ≤ three.toNat ∧ three.toNat ≤ 0xBF)
    (last : 0x80 ≤ four.toNat ∧ four.toNat ≤ 0xBF) :
    encodeChar char = [one, two, three, four] := by
  have same : char.val.toNat = char.toNat := rfl
  simp only [encodeChar, String.utf8EncodeChar, same]
  rw [if_neg (by omega), if_neg (by omega), if_neg (by omega), ofNat_eq one (by omega),
    ofNat_eq two (by omega), ofNat_eq three (by omega),
    ofNat_eq four (by omega)]

end

/-- What a lead byte of well-formed bytes announces. -/
inductive Announces (offset : Nat) (byte : UInt8) : Lead → Prop where
  | single (short : byte.toNat < 0x80) : Announces offset byte (.single byte.toNat)
  | two (range : 0xC2 ≤ byte.toNat ∧ byte.toNat < 0xE0) :
      Announces offset byte (.longer ⟨byte, offset, 1, 0, 0x80, 0xBF, byte.toNat - 0xC0⟩)
  | three {low high : Nat} (range : 0xE0 ≤ byte.toNat ∧ byte.toNat < 0xF0)
      (bounds : 0x80 ≤ low ∧ high ≤ 0xBF) (long : byte.toNat = 0xE0 → low = 0xA0)
      (whole : byte.toNat = 0xED → high = 0x9F) :
      Announces offset byte (.longer ⟨byte, offset, 1, 1, low, high, byte.toNat - 0xE0⟩)
  | four {low high : Nat} (range : 0xF0 ≤ byte.toNat ∧ byte.toNat < 0xF5)
      (bounds : 0x80 ≤ low ∧ high ≤ 0xBF) (long : byte.toNat = 0xF0 → low = 0x90)
      (within : byte.toNat = 0xF4 → high = 0x8F) :
      Announces offset byte (.longer ⟨byte, offset, 1, 2, low, high, byte.toNat - 0xF0⟩)

theorem announces_of_lead {offset : Nat} {byte : UInt8} (valid : lead false offset byte ≠ .invalid) :
    Announces offset byte (lead false offset byte) := by
  unfold lead at valid ⊢
  dsimp only at valid ⊢
  split
  · rename_i short
    exact .single short
  rename_i long
  split
  · rename_i low
    simp [long, low] at valid
  split
  · exact .two (by omega)
  split
  · refine .three (by omega) ⟨?_, ?_⟩ ?_ ?_
    · split <;> omega
    · split <;> omega
    · intro same
      rw [if_pos same]
    · intro same
      simp [same]
  split
  · refine .four (by omega) ⟨?_, ?_⟩ ?_ ?_
    · split <;> omega
    · split <;> omega
    · intro same
      rw [if_pos same]
    · intro same
      rw [if_pos same]
  · rename_i high
    simp_all

namespace DecodesFrom

variable {offset : Nat} {first : UInt8} {rest bytes : List UInt8} {points : List CodePoint}

theorem led (decodes : DecodesFrom offset none (first :: rest) points) :
    (first.toNat < 0x80 ∧ ∃ others, points = .ofNumber first.toNat :: others ∧
        DecodesFrom (offset + 1) none rest others) ∨
      ∃ begun, Announces offset first (.longer begun) ∧
        DecodesFrom (offset + 1) (some begun) rest points := by
  unfold DecodesFrom piecesFrom at decodes
  have announced : lead false offset first ≠ .invalid → Announces offset first (lead false offset first) :=
    announces_of_lead
  cases led : lead false offset first with
  | invalid =>
      simp only [led] at decodes
      exact absurd decodes not_error
  | single number =>
      simp only [led] at decodes announced
      cases announced nofun with
      | single short => exact .inl ⟨short, of_ok decodes⟩
  | longer begun =>
      simp only [led] at decodes announced
      exact .inr ⟨begun, announced nofun, decodes⟩

theorem behind {number : Nat} (taken : List UInt8) (decodes : DecodesFrom offset none rest points)
    (taking : ∀ char : Char, char.toNat = number → encodeChar char = taken)
    (valid : number < 0xD800 ∨ 0xE000 ≤ number ∧ number < 0x110000) :
    ∃ char next after others, taken ++ rest = encodeChar char ++ after ∧
      CodePoint.ofNumber number :: points = .char char :: others ∧ DecodesFrom next none after others := by
  obtain ⟨char, same⟩ := exists_char number valid
  refine ⟨char, _, rest, points, ?_, ?_, decodes⟩
  · rw [taking char same]
  · rw [← same, CodePoint.ofNumber_toNat]

/-- What comes first in bytes that are decoded is the encoding of a character. -/
theorem character (decodes : DecodesFrom offset none (first :: rest) points) :
    ∃ char next after others, first :: rest = encodeChar char ++ after ∧
      points = .char char :: others ∧ DecodesFrom next none after others := by
  obtain ⟨short, others, rfl, later⟩ | ⟨begun, announces, begins⟩ := decodes.led
  · exact later.behind [first] (fun char number => encodeChar_one number short) (by omega)
  cases announces with
  | two range =>
      obtain ⟨second, rest, others, rfl, within, rfl, later⟩ := begins.last rfl
      simp only [Pending.bitsWith] at within ⊢
      exact later.behind [first, second] (fun char number => encodeChar_two number range within) (by omega)
  | three range bounds long whole =>
      obtain ⟨second, rest, rfl, within, goesOn⟩ := begins.middle (by simp)
      obtain ⟨third, rest, others, rfl, last, rfl, later⟩ := goesOn.last (by simp [Pending.advance])
      simp only [Pending.bitsWith, Pending.advance] at within last ⊢
      refine later.behind [first, second, third] (fun char number => ?_) (by omega)
      exact encodeChar_three number range (by omega) (by omega) last
  | four range bounds long within =>
      obtain ⟨second, rest, rfl, inside, goesOn⟩ := begins.middle (by simp)
      obtain ⟨third, rest, rfl, middle, ends⟩ := goesOn.middle (by simp [Pending.advance])
      obtain ⟨fourth, rest, others, rfl, last, rfl, later⟩ := ends.last (by simp [Pending.advance])
      simp only [Pending.bitsWith, Pending.advance] at inside middle last ⊢
      refine later.behind [first, second, third, fourth] (fun char number => ?_) (by omega)
      exact encodeChar_four number range (by omega) (by omega) middle last

theorem encoded {bytes : List UInt8} (decodes : DecodesFrom offset none bytes points) :
    ∃ text, bytes = encode text ∧ points = text.map .char := by
  induction points generalizing offset bytes with
  | nil =>
      cases bytes with
      | nil => exact ⟨[], rfl, rfl⟩
      | cons first rest =>
          obtain ⟨_, _, _, _, _, impossible, _⟩ := decodes.character
          cases impossible
  | cons point points ih =>
      cases bytes with
      | nil => cases decodes
      | cons first rest =>
          obtain ⟨char, next, after, others, split, same, later⟩ := decodes.character
          cases same
          obtain ⟨text, rfl, rfl⟩ := ih later
          exact ⟨char :: text, by rw [split]; rfl, rfl⟩

end DecodesFrom

/-- Bytes are decoded exactly when they are the encoding of a text, and to this text. -/
theorem decode_eq_ok_iff {bytes : List UInt8} {points : List CodePoint} :
    decode bytes = .ok points ↔ ∃ text, bytes = encode text ∧ points = text.map .char := by
  constructor
  · intro decoded
    exact DecodesFrom.encoded decoded
  · intro written
    obtain ⟨text, rfl, rfl⟩ := written
    exact decode_encode text

end Utf8

end ImageOwnership
