import ImageOwnership.Json.Parsing
import ImageOwnership.Text.Utf32

/-!
The forgiving reading of a JSON answer: its encoding is told by a byte order mark or by the zero bytes
among the first four, halves of surrogate pairs may stand alone, and containers may lie deep inside
each other.
-/

namespace ImageOwnership.Json

inductive Encoding where
  | utf8
  | utf16 (order : ByteOrder)
  | utf32 (order : ByteOrder)
deriving DecidableEq, Repr

namespace Encoding

/-- The encoding of bytes without a mark: the first characters of a JSON text are ASCII, which shows
where the zero bytes of wider units lie. -/
def ofZeroBytes : List UInt8 → Encoding
  | [0, _] => .utf16 .big
  | [_, 0] => .utf16 .little
  | 0 :: 0 :: _ :: _ :: _ => .utf32 .big
  | 0 :: _ :: _ :: _ :: _ => .utf16 .big
  | _ :: 0 :: 0 :: 0 :: _ => .utf32 .little
  | _ :: 0 :: _ :: _ :: _ => .utf16 .little
  | _ => .utf8

/-- The encoding of the bytes, and the bytes after a byte order mark. -/
def detect : List UInt8 → Encoding × List UInt8
  | 0x00 :: 0x00 :: 0xFE :: 0xFF :: rest => (.utf32 .big, rest)
  | 0xFF :: 0xFE :: 0x00 :: 0x00 :: rest => (.utf32 .little, rest)
  | 0xFE :: 0xFF :: rest => (.utf16 .big, rest)
  | 0xFF :: 0xFE :: rest => (.utf16 .little, rest)
  | 0xEF :: 0xBB :: 0xBF :: rest => (.utf8, rest)
  | bytes => (ofZeroBytes bytes, bytes)

def decode? : Encoding → List UInt8 → Option (List CodePoint)
  | .utf8, bytes => (Utf8.decodeWith true bytes).toOption
  | .utf16 order, bytes => Utf16.decode? order bytes
  | .utf32 order, bytes => Utf32.decode? order bytes

end Encoding

/-- Why an answer is no JSON value. -/
inductive AnswerFault where
  | undecodable
  | unreadable (fault : Fault)
deriving DecidableEq, Repr

/-- What an answer may hold: only the digits of an integer are counted. How deep its containers may lie
depends on how many calls are active when it is read; that is what is left of a thousand of them. -/
def answerLimits : Limits where
  depth := .all 970
  isTooLong number := number.isInteger && number.whole.length > Reading.digitLimit

/-- The forgiving reading of an answer. -/
def load (bytes : List UInt8) : Except AnswerFault Read :=
  let (encoding, content) := Encoding.detect bytes
  match encoding.decode? content with
  | none => .error .undecodable
  | some text => (parse answerLimits text).mapError .unreadable

end ImageOwnership.Json
