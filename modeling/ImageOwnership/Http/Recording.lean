import ImageOwnership.Http.Script
import ImageOwnership.Json.Parsing

/-!
Recorded answers, one JSON object each. A response has a `status`, a `location` and a `body`, and each of
them may be left out; a request that failed has its message as `failed`, or as `timedOut` when time ran
out.
-/

namespace ImageOwnership.Http.Recording

/-- What stands for an answer that cannot be read. -/
def unreadable : RequestError :=
  ⟨.remoteProtocolError, "the recorded answer cannot be read"⟩

def text? (name : String) (members : List (String × Json String)) : Option String :=
  match Json.lastNamed name members with
  | some (.string text) => some text
  | _ => none

def status (members : List (String × Json String)) : Nat :=
  match Json.lastNamed "status" members with
  | some (.integer status) => status.toNat
  | _ => 200

def answer (members : List (String × Json String)) : Except RequestError Response :=
  match text? "timedOut" members, text? "failed" members with
  | some message, _ => .error ⟨.readTimeout, message⟩
  | none, some message => .error ⟨.connectError, message⟩
  | none, none =>
      .ok ⟨status members, text? "location" members,
        Utf8.encode ((text? "body" members).getD "").toList⟩

/-- The entry that a recorded answer stands for. -/
def entry (recorded : List UInt8) : Script.Entry :=
  match Json.decode? recorded with
  | some (.object members) => { answer := answer members }
  | _ => { answer := .error unreadable }

/-- A world in which the recorded answers are given one after the other. -/
def world (recorded : List (List UInt8)) : Script.World :=
  { entries := recorded.map entry }

end ImageOwnership.Http.Recording
