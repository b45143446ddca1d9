import ImageOwnership.Http.Client

/-!
Calls that are repeated when they time out, and after no other fault. The caller's wish to stop is
looked at before each attempt and once its reply is there, never during a pause; between two attempts the
pause doubles from one second up to ten. The fault of the last attempt is handed on as it is.
-/

namespace ImageOwnership.Http

/-- When a cancellation was noticed. -/
inductive Moment where
  | before
  | during
deriving DecidableEq, Repr

/-- Why a call ended without a reply. -/
inductive Stop where
  | fault (fault : Fault)
  | cancelled (moment : Moment) (url : String)
deriving DecidableEq, Repr

def Stop.message : Stop → String
  | .fault reason => reason.message
  | .cancelled .before url => "validation cancelled before request to " ++ url
  | .cancelled .during url => "validation cancelled during request to " ++ url

namespace Retry

variable {World Note : Type}

/-- Whether a fault is a timeout, after which a call may be repeated. -/
def isTimeout : Fault → Bool
  | .request error => error.kind.isTimeout
  | _ => false

/-- The seconds before the next attempt, when some pauses have been made already. -/
def delay (pauses : Nat) : Nat :=
  min (Nat.pow 2 pauses) 10

def checkCancelled (transport : Transport World) (moment : Moment) (url : String) :
    Action World Note Stop Unit := do
  if ← Action.isCancelled transport then
    throw (.cancelled moment url)

/-- Attempts a call, and again after each timeout while repetitions are left. -/
def attempts (transport : Transport World) (client : Client) (call : Call) :
    (left pauses : Nat) → Action World Note Stop Reply
  | left, pauses => do
      checkCancelled transport .before call.url
      match ← Action.outcome (client.get transport call) with
      | .ok reply =>
          checkCancelled transport .during call.url
          return reply
      | .error fault =>
          match left with
          | 0 => throw (.fault fault)
          | left + 1 =>
              if isTimeout fault then
                Action.pause transport (delay pauses)
                attempts transport client call left (pauses + 1)
              else
                throw (.fault fault)

/-- A call with the repetitions that the settings allow. -/
def get (transport : Transport World) (client : Client) (settings : Settings) (call : Call) :
    Action World Note Stop Reply :=
  attempts transport client call settings.retries 0

end Retry

end ImageOwnership.Http
