import ImageOwnership.Json.Token
import ImageOwnership.Text.Utf8

/-!
JSON values from tokens. A stack of open containers is carried along the tokens, so that the first
token that cannot follow decides how the reading fails. `decode?` is the strict reading of a document:
UTF-8, at most two hundred containers inside each other, an empty one not counted, no number with more
digits before its point than an integer may have, and plain text everywhere.
-/

namespace ImageOwnership.Json

inductive Container where
  | array
  | object
deriving DecidableEq, Repr

/-- Why a text is no JSON value. -/
inductive Fault where
  | malformed
  | longNumber (digits : Nat)
  | tooDeep (container : Container)
deriving DecidableEq, Repr

/-- A value as it is read. -/
abbrev Read := Json (List CodePoint)

/-- How many containers may lie inside each other. -/
inductive Depth where
  /-- An empty container does not count. -/
  | nonempty (most : Nat)
  /-- Each container counts from its first mark on. -/
  | all (most : Nat)

namespace Depth

instance (most : Nat) : OfNat Depth most := ⟨.nonempty most⟩

/-- Whether a container may begin inside some others. -/
def mayOpen : Depth → Nat → Bool
  | .nonempty _, _ => true
  | .all most, outer => outer < most

/-- Whether a container that has begun inside some others may hold anything. -/
def mayHold : Depth → Nat → Bool
  | .nonempty most, outer => outer < most
  | .all _, _ => true

end Depth

/-- What a reader puts up with. -/
structure Limits where
  depth : Depth
  /-- Which numbers have too many digits. -/
  isTooLong : Number → Bool

/-- An open container with what has been read of it, the last part first. -/
inductive Frame where
  | items (done : List Read)
  | member (done : List (List CodePoint × Read)) (key : List CodePoint)

/-- What may follow, inside the containers that are open. -/
inductive State where
  | awaitingValue (frames : List Frame)
  | openedArray (frames : List Frame)
  | openedObject (frames : List Frame)
  | awaitingKey (done : List (List CodePoint × Read)) (frames : List Frame)
  | awaitingColon (done : List (List CodePoint × Read)) (key : List CodePoint) (frames : List Frame)
  | complete (value : Read) (frames : List Frame)

namespace State

/-- The first token of a value. -/
def begin (limits : Limits) (frames : List Frame) : Token → Except Fault State
  | .atom value => .ok (.complete value frames)
  | .numeric number =>
      if limits.isTooLong number then .error (.longNumber number.whole.length)
      else .ok (.complete number.value frames)
  | .quoted points => .ok (.complete (.string points) frames)
  | .openArray =>
      if limits.depth.mayOpen frames.length then .ok (.openedArray frames)
      else .error (.tooDeep .array)
  | .openObject =>
      if limits.depth.mayOpen frames.length then .ok (.openedObject frames)
      else .error (.tooDeep .object)
  | _ => .error .malformed

/-- The token after a value. -/
def follow (value : Read) : List Frame → Token → Except Fault State
  | .items done :: frames, .comma => .ok (.awaitingValue (.items (value :: done) :: frames))
  | .items done :: frames, .closeArray =>
      .ok (.complete (.array (value :: done).reverse) frames)
  | .member done key :: frames, .comma => .ok (.awaitingKey ((key, value) :: done) frames)
  | .member done key :: frames, .closeObject =>
      .ok (.complete (.object ((key, value) :: done).reverse) frames)
  | _, _ => .error .malformed

/-- The next token. -/
def step (limits : Limits) : State → Token → Except Fault State
  | .awaitingValue frames, token => begin limits frames token
  | .openedArray frames, .closeArray => .ok (.complete (.array []) frames)
  | .openedArray frames, token =>
      if limits.depth.mayHold frames.length then begin limits (.items [] :: frames) token
      else .error (.tooDeep .array)
  | .openedObject frames, .closeObject => .ok (.complete (.object []) frames)
  | .openedObject frames, .quoted key =>
      if limits.depth.mayHold frames.length then .ok (.awaitingColon [] key frames)
      else .error (.tooDeep .object)
  | .awaitingKey done frames, .quoted key => .ok (.awaitingColon done key frames)
  | .awaitingColon done key frames, .colon => .ok (.awaitingValue (.member done key :: frames))
  | .complete value frames, token => follow value frames token
  | _, _ => .error .malformed

/-- The value once all tokens are read. -/
def finish : State → Except Fault Read
  | .complete value [] => .ok value
  | _ => .error .malformed

end State

def ofTokens (limits : Limits) (tokens : List Token) : Except Fault Read := do
  let last ← tokens.foldlM (State.step limits) (.awaitingValue [])
  last.finish

def parse (limits : Limits) (text : List CodePoint) : Except Fault Read :=
  ofTokens limits (tokens text)

/-- What a document may hold: before the point and the power of ten, every number counts as an integer
that is too long beyond the limit. Its sign is no digit. -/
def documentLimits : Limits where
  depth := 200
  isTooLong number := number.whole.length > Reading.digitLimit

/-- The strict reading of a document. -/
def decode? (bytes : List UInt8) : Option (Json String) := do
  let text ← (Utf8.decode bytes).toOption
  let value ← (parse documentLimits text).toOption
  value.mapText? CodePoint.toString?

end ImageOwnership.Json
