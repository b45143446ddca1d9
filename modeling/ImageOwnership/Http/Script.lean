import ImageOwnership.Http.Run

/-!
A transport whose answers are known beforehand. They are taken in order, whatever is asked for with one of
the two schemes of the web; a cancellation can be tied to an answer, to a pause or to the closing of the
client. Answers may set cookies: what becomes of them is a matter of rules, which look at the lines so far
and at the clock. Only pauses take time.
-/

namespace ImageOwnership.Http.Script

/-- A line that set a cookie, with the time and the address that it came from. -/
structure CookieLine where
  seconds : Nat
  url : Url
  line : String
deriving DecidableEq, Repr

/-- An answer with its lines that set cookies. Only those of a response count. -/
structure Answer where
  result : Except RequestError Response
  cookieLines : List String := []

def Answer.linesFrom (answer : Answer) (seconds : Nat) (url : Url) : List CookieLine :=
  match answer.result with
  | .ok _ => answer.cookieLines.map (⟨seconds, url, ·⟩)
  | .error _ => []

/-- An answer that is given some times, each time perhaps with a cancellation. -/
structure Entry where
  answer : Except RequestError Response
  times : Nat := 1
  cancels : Bool := false
  cookieLines : List String := []

/-- What an entry answers each time. -/
def Entry.given (entry : Entry) : Answer :=
  ⟨entry.answer, entry.cookieLines⟩

/-- The cookies that are kept at a time, given the lines so far. -/
abbrev CookieRules := List CookieLine → Nat → Cookies

structure World where
  entries : List Entry
  /-- Whether the caller has cancelled; nothing when the caller cannot. -/
  cancelled : Option Bool := none
  pauses : Nat := 0
  /-- The pause during which the caller cancels, counted from one. -/
  cancelsOnPause : Option Nat := none
  cancelsOnClose : Bool := false
  /-- The seconds that have passed. -/
  clock : Nat := 0
  cookieLines : List CookieLine := []

/-- The answer when none is left. -/
def exhausted : RequestError :=
  ⟨.connectError, "script exhausted"⟩

/-- Why a request is not sent, if its scheme is not one of the two. -/
def unsupported? (scheme : String) : Option RequestError :=
  if scheme = "http" || scheme = "https" then
    none
  else if scheme.isEmpty then
    some ⟨.unsupportedProtocol,
      "Request URL is missing an 'http://' or 'https://' protocol."⟩
  else
    some ⟨.unsupportedProtocol,
      "Request URL has an unsupported protocol '" ++ scheme ++ "://'."⟩

namespace World

/-- Sets what the caller wants, if the caller has a say. -/
def setCancelled (world : World) (value : Bool) : World :=
  { world with cancelled := world.cancelled.map fun _ => value }

/-- The next entry to be used, and the entries after one use of it. -/
def take? : List Entry → Option (Entry × List Entry)
  | [] => none
  | entry :: rest =>
      match entry.times with
      | 0 => take? rest
      | 1 => some (entry, rest)
      | more + 2 => some (entry, { entry with times := more + 1 } :: rest)

def respond (url : Url) (world : World) : Except RequestError Response × World :=
  match take? world.entries with
  | none => (.error exhausted, world)
  | some (entry, rest) =>
      let after :=
        { world with
          entries := rest
          cookieLines := world.cookieLines ++ entry.given.linesFrom world.clock url }
      (entry.answer, if entry.cancels then after.setCancelled true else after)

def pause (seconds : Nat) (world : World) : World :=
  let after := { world with pauses := world.pauses + 1, clock := world.clock + seconds }
  if after.cancelsOnPause = some after.pauses then after.setCancelled true else after

def close (world : World) : World :=
  if world.cancelsOnClose then world.setCancelled true else world

end World

/-- The transport of a client that keeps cookies by some rules. -/
def transportWith (names : Url.HostNames) (rules : CookieRules) : Transport World where
  names
  respond request world :=
    match unsupported? request.url.scheme with
    | some error => (.error error, world)
    | none => world.respond request.url
  cookies world := rules world.cookieLines world.clock
  pause seconds world := world.pause seconds
  close world := world.close
  isCancelled world := (world.cancelled = some true, world)

/-- The transport of a client that keeps no cookies. -/
def transport : Transport World :=
  transportWith .verbatim fun _ _ => none

end ImageOwnership.Http.Script
