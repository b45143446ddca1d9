import ImageOwnership.Proofs.Text.Utf8
import ImageOwnership.Proofs.Url.Splitting
import ImageOwnership.Url.Form
import Mathlib.Data.List.TakeWhile

/-!
Forms are read back as they were written, whatever characters the parameters hold: no mark of the form
occurs in an encoded text, and bytes that are spelt out give the text again.
-/

namespace ImageOwnership

/-! ### Bytes that are spelt out -/

namespace Percent

theorem hexValue?_hexDigit : ∀ value < 16, hexValue? (hexDigit value) = some value := by
  decide

theorem byte?_hexDigit (byte : UInt8) :
    byte? (hexDigit (byte.toNat / 16)) (hexDigit (byte.toNat % 16)) = some byte := by
  have bounded := byte.toNat_lt
  have high := hexValue?_hexDigit (byte.toNat / 16) (by omega)
  have low := hexValue?_hexDigit (byte.toNat % 16) (by omega)
  have whole : UInt8.ofNat (16 * (byte.toNat / 16) + byte.toNat % 16) = byte := by
    rw [Nat.div_add_mod, UInt8.ofNat_toNat]
  simp only [byte?, high, low, Option.bind_eq_bind, Option.bind_some, whole]

theorem decodeBytes_flatMap_encodeByte (bytes : List UInt8) (rest : List Char) :
    decodeBytes (bytes.flatMap encodeByte ++ rest) = bytes ++ decodeBytes rest := by
  induction bytes with
  | nil => rfl
  | cons byte others ih =>
      have spelt : (byte :: others).flatMap encodeByte ++ rest =
          '%' :: hexDigit (byte.toNat / 16) :: hexDigit (byte.toNat % 16) ::
            (others.flatMap encodeByte ++ rest) := by
        simp [encodeByte]
      rw [spelt, decodeBytes, byte?_hexDigit, ih, List.cons_append]

theorem decodeBytes_cons {char : Char} (other : char ≠ '%') (rest : List Char) :
    decodeBytes (char :: rest) = Utf8.encodeChar char ++ decodeBytes rest := by
  rw [decodeBytes]
  rintro high low more rfl
  exact absurd rfl other

theorem encode_of_safe {safe : Char → Bool} {text : List Char}
    (kept : ∀ char ∈ text, safe char = true) : encode safe text = text := by
  induction text with
  | nil => rfl
  | cons first rest ih =>
      rw [List.forall_mem_cons] at kept
      rw [encode, List.flatMap_cons, ← encode, ih kept.2, encodeChar, if_pos kept.1,
        List.singleton_append]

end Percent

namespace Utf8

theorem decodeReplacing_encode (text : List Char) : decodeReplacing (encode text) = text.map .char := by
  rw [decodeReplacing, pieces, piecesFrom_encode, List.map_map]
  rfl

end Utf8

namespace Form

/-! ### Texts -/

/-- What a character of an encoded text stands for before its bytes are read. -/
def spaced (char : Char) : Char :=
  if char = '+' then ' ' else char

/-- The characters that an encoded text is made of. -/
def isWritten (char : Char) : Bool :=
  isSafe char || char = '+' || char = '%'

theorem isSafe_hexDigit : ∀ value < 16, isSafe (Percent.hexDigit value) = true := by
  decide

theorem isSafe_of_mem_encodeByte {byte : UInt8} {char : Char}
    (member : char ∈ Percent.encodeByte byte) : char = '%' ∨ isSafe char = true := by
  have bounded := byte.toNat_lt
  have high := isSafe_hexDigit (byte.toNat / 16) (by omega)
  have low := isSafe_hexDigit (byte.toNat % 16) (by omega)
  simp only [Percent.encodeByte, List.mem_cons, List.not_mem_nil, or_false] at member
  obtain rfl | rfl | rfl := member
  · exact .inl rfl
  · exact .inr high
  · exact .inr low

theorem isWritten_of_mem_encodeText {text : List Char} {char : Char}
    (member : char ∈ encodeText text) : isWritten char = true := by
  obtain ⟨source, _, member⟩ := List.mem_flatMap.mp member
  unfold encodeChar at member
  split at member
  · cases List.mem_singleton.mp member
    rfl
  · unfold Percent.encodeChar at member
    split at member
    · cases List.mem_singleton.mp member
      simp [isWritten, ‹isSafe char = true›]
    · obtain ⟨byte, _, member⟩ := List.mem_flatMap.mp member
      obtain rfl | safe := isSafe_of_mem_encodeByte member
      · rfl
      · simp [isWritten, safe]

theorem notMem_encodeText {mark : Char} (unwritten : isWritten mark = false) (text : List Char) :
    mark ∉ encodeText text := by
  intro member
  rw [isWritten_of_mem_encodeText member] at unwritten
  cases unwritten

theorem map_spaced_flatMap_encodeByte (bytes : List UInt8) :
    (bytes.flatMap Percent.encodeByte).map spaced = bytes.flatMap Percent.encodeByte := by
  rw [List.map_congr_left (g := id), List.map_id]
  intro char member
  obtain ⟨byte, _, member⟩ := List.mem_flatMap.mp member
  have other : char ≠ '+' := by
    rintro rfl
    obtain percent | safe := isSafe_of_mem_encodeByte member
    · cases percent
    · exact absurd safe (by decide)
  exact if_neg other

theorem decodeBytes_encodeChar (char : Char) (rest : List Char) :
    Percent.decodeBytes ((encodeChar char ++ rest).map spaced) =
      Utf8.encodeChar char ++ Percent.decodeBytes (rest.map spaced) := by
  rw [List.map_append]
  unfold encodeChar
  split
  · rename_i blank
    subst blank
    exact Percent.decodeBytes_cons (by decide) _
  · unfold Percent.encodeChar
    split
    · rename_i safe
      have plus : char ≠ '+' := by
        rintro rfl
        exact absurd safe (by decide)
      have percent : char ≠ '%' := by
        rintro rfl
        exact absurd safe (by decide)
      have same : spaced char = char := if_neg plus
      rw [List.map_singleton, same, List.singleton_append, Percent.decodeBytes_cons percent]
    · rw [map_spaced_flatMap_encodeByte, Percent.decodeBytes_flatMap_encodeByte]

theorem decodeBytes_encodeText (text : List Char) :
    Percent.decodeBytes ((encodeText text).map spaced) = Utf8.encode text := by
  induction text with
  | nil => rfl
  | cons char rest ih =>
      rw [encodeText, List.flatMap_cons, ← encodeText, decodeBytes_encodeChar, ih]
      rfl

theorem decodeText_encodeText (text : List Char) : decodeText (encodeText text) = text := by
  have read : decodeText (encodeText text) = Percent.decode ((encodeText text).map spaced) := rfl
  have chars : CodePoint.toChar? ∘ CodePoint.char = some := rfl
  rw [read, Percent.decode, decodeBytes_encodeText, Utf8.decodeReplacing_encode, List.filterMap_map,
    chars, List.filterMap_some]

/-! ### Parameters -/

theorem decodePair_encodePair (pair : List Char × List Char) : decodePair (encodePair pair) = pair := by
  have absent : '=' ∉ encodeText pair.1 := notMem_encodeText (by decide) pair.1
  have kept : ∀ char ∈ encodeText pair.1, (decide (char ≠ '=')) = true := by
    intro char member
    simp only [ne_eq, decide_eq_true_eq]
    rintro rfl
    exact absent member
  have name : (encodePair pair).takeWhile (· ≠ '=') = encodeText pair.1 := by
    rw [encodePair, Url.takeWhile_append_stop (· ≠ '=') (by simp), List.takeWhile_eq_self_iff.mpr kept]
  have value : (encodePair pair).dropWhile (· ≠ '=') = '=' :: encodeText pair.2 := by
    rw [encodePair, Url.dropWhile_append_stop (· ≠ '=') (by simp), List.dropWhile_eq_nil_iff.mpr kept,
      List.nil_append]
  rw [decodePair, name, value, List.drop_one, List.tail_cons, decodeText_encodeText,
    decodeText_encodeText]

theorem ampersand_notMem_encodePair (pair : List Char × List Char) : '&' ∉ encodePair pair := by
  simp only [encodePair, List.mem_append, List.mem_cons, not_or]
  exact ⟨notMem_encodeText (by decide) _, by decide, notMem_encodeText (by decide) _⟩

/-- Whatever is encoded as a form is read back. -/
theorem decode_encode (pairs : List (List Char × List Char)) : decode (encode pairs) = pairs := by
  cases pairs with
  | nil => rfl
  | cons first rest =>
      have some : (encode (first :: rest)).isEmpty = false := by
        cases rest <;> simp [encode, encodePair, List.intercalate]
      have divided : (encode (first :: rest)).splitOn '&' = (first :: rest).map encodePair := by
        refine List.splitOn_intercalate '&' ?_ (by simp)
        intro text member
        obtain ⟨pair, _, rfl⟩ := List.mem_map.mp member
        exact ampersand_notMem_encodePair pair
      have same : decodePair ∘ encodePair = id := funext decodePair_encodePair
      rw [decode, some, if_neg Bool.false_ne_true, divided, List.map_map, same, List.map_id]

/-! ### Forms as queries -/

theorem isAsciiText_of_isAlphanum {char : Char} (letter : char.isAlphanum = true) :
    Url.isAsciiText char = true := by
  change (decide (65 ≤ char.val ∧ char.val ≤ 90) || (decide (97 ≤ char.val) && decide (char.val ≤ 122)) ||
    (decide (48 ≤ char.val) && decide (char.val ≤ 57))) = true at letter
  simp only [Bool.or_eq_true, Bool.and_eq_true, decide_eq_true_eq, UInt32.le_iff_toNat_le] at letter
  change ((65 ≤ char.toNat ∧ char.toNat ≤ 90) ∨ (97 ≤ char.toNat ∧ char.toNat ≤ 122)) ∨
    (48 ≤ char.toNat ∧ char.toNat ≤ 57) at letter
  simp only [Url.isAsciiText, Bool.and_eq_true, decide_eq_true_eq]
  omega

theorem queryKeeps_of_isWritten {char : Char} (written : isWritten char = true) :
    Url.queryKeeps char = true := by
  have shown : Url.isAsciiText char = true := by
    simp only [isWritten, isSafe, Bool.or_eq_true, decide_eq_true_eq] at written
    obtain (((((letter | rfl) | rfl) | rfl) | rfl) | rfl) | rfl := written
    case inl.inl.inl.inl.inl.inl => exact isAsciiText_of_isAlphanum letter
    all_goals decide
  have unmarked : char ∉ " \"#<>".toList := by
    intro marked
    change char ∈ [' ', '"', '#', '<', '>'] at marked
    simp only [List.mem_cons, List.not_mem_nil, or_false] at marked
    obtain rfl | rfl | rfl | rfl | rfl := marked
    all_goals exact absurd written (by decide)
  simp only [Url.queryKeeps, shown, List.contains_eq_mem, unmarked, decide_false, Bool.not_false,
    Bool.and_true]

theorem queryKeeps_of_mem_encodePair {pair : List Char × List Char} {char : Char}
    (member : char ∈ encodePair pair) : Url.queryKeeps char = true := by
  rw [encodePair, List.mem_append, List.mem_cons] at member
  obtain name | rfl | value := member
  · exact queryKeeps_of_isWritten (isWritten_of_mem_encodeText name)
  · decide
  · exact queryKeeps_of_isWritten (isWritten_of_mem_encodeText value)

theorem queryKeeps_of_mem_encode {pairs : List (List Char × List Char)} {char : Char}
    (member : char ∈ encode pairs) : Url.queryKeeps char = true := by
  induction pairs with
  | nil => cases member
  | cons pair rest ih =>
      cases rest with
      | nil => exact queryKeeps_of_mem_encodePair (by simpa [encode] using member)
      | cons next others =>
          rw [encode, List.map_cons, List.map_cons, List.intercalate_cons_cons, List.mem_append,
            List.mem_append, List.mem_singleton] at member
          obtain (first | rfl) | later := member
          · exact queryKeeps_of_mem_encodePair first
          · decide
          · exact ih later

/-- A form stands in a query as it is. -/
theorem encode_queryKeeps (pairs : List (List Char × List Char)) :
    Percent.encode Url.queryKeeps (encode pairs) = encode pairs :=
  Percent.encode_of_safe fun _ member => queryKeeps_of_mem_encode member

end Form

end ImageOwnership
