import ImageOwnership.Http.Cookie

/-!
Runs: what happens, in order, when requests are sent. A transport stands for everything beyond the
client: it answers requests, keeps cookies, lets time pass, and tells whether the caller has asked to stop.
It may behave in any way that its own state allows, so that a fact about all transports is a fact about
every sequence of answers, all rules for cookies and every moment of a cancellation. It may also answer
requests of any scheme.
-/

namespace ImageOwnership.Http

/-- The surroundings of a client, with a state of their own. -/
structure Transport (World : Type) where
  /-- What is known about names of hosts. -/
  names : Url.HostNames
  respond : Request → World → Except RequestError Response × World
  /-- The cookies that are kept by now. -/
  cookies : World → Cookies
  /-- Some seconds pass. -/
  pause : Nat → World → World
  /-- A client is closed. -/
  close : World → World
  /-- Whether the caller wants to be told about a cancellation and has cancelled. The caller may do so
  at any time, and so from one look to the next the world may move on as well. -/
  isCancelled : World → Bool × World

/-- The same surroundings for a caller who cannot cancel. -/
def Transport.unattended {World : Type} (transport : Transport World) : Transport World :=
  { transport with isCancelled := fun world => (false, world) }

inductive Event where
  /-- A client is made. -/
  | opened
  /-- The client is asked for an address; requests may follow. -/
  | called (url : String)
  | sent (request : Request)
  | paused (seconds : Nat)
  /-- A client that was made is closed. -/
  | closed
deriving DecidableEq, Repr

/-- The state of a run: the world, whether the client can be used, the events so far, and the notes
taken along the way. -/
structure Run (World Note : Type) where
  world : World
  isOpen : Bool := true
  trace : List Event := []
  notes : List Note := []

/-- A step of a run, which may fail. -/
abbrev Action (World Note Failure α : Type) :=
  ExceptT Failure (StateM (Run World Note)) α

namespace Action

variable {World Note Failure α : Type}

def record (event : Event) : Action World Note Failure Unit :=
  modify fun run => { run with trace := run.trace ++ [event] }

def note (entry : Note) : Action World Note Failure Unit :=
  modify fun run => { run with notes := run.notes ++ [entry] }

def changeWorld (change : World → World) : Action World Note Failure Unit :=
  modify fun run => { run with world := change run.world }

def isCancelled (transport : Transport World) : Action World Note Failure Bool := do
  let run ← get
  let (cancelled, world) := transport.isCancelled run.world
  set { run with world := world }
  return cancelled

def pause (transport : Transport World) (seconds : Nat) : Action World Note Failure Unit := do
  record (.paused seconds)
  changeWorld (transport.pause seconds)

/-- What a transport answers to a request that reaches it. -/
def respond (transport : Transport World) (request : Request) :
    Action World Note Failure (Except RequestError Response) := do
  record (.sent request)
  let run ← get
  let (answer, world) := transport.respond request run.world
  set { run with world := world }
  return answer

/-- The outcome of a step, with a failure as a value. -/
def outcome {Other : Type} (action : Action World Note Failure α) :
    Action World Note Other (Except Failure α) :=
  ExceptT.mk do
    let result ← action.run
    return .ok result

/-- A result that is known already. -/
def ofExcept (result : Except Failure α) : Action World Note Failure α :=
  ExceptT.mk (pure result)

end Action

end ImageOwnership.Http
