import ImageOwnership.Proofs.Http.Issued
import ImageOwnership.Proofs.Http.UserAgent
import ImageOwnership.Proofs.TokenDiscipline

/-!
Clients that are made and clients that are lent. A validation goes the same way with either, but for the
user agent that it asks for tokens with. The client that it makes it closes, once, whatever happens; the
one that is lent to it stays open.
-/

namespace ImageOwnership

open Http

variable {World : Type}

namespace Http

/-- Closing a client does not change whether the caller has cancelled. -/
def Transport.ClosesQuietly (transport : Transport World) : Prop :=
  ∀ world, (transport.isCancelled (transport.close world)).1 = (transport.isCancelled world).1

/-- Whatever a client is asked for next, the request goes out. -/
def Run.Serves {Note : Type} (run : Run World Note) (transport : Transport World) (client : Client) :
    Prop :=
  ∀ call request, transport.request run.world call client = .ok request →
    ∃ result events world, Action.perform (client.get transport call) run =
      (result, run.advance (.called call.url :: .sent request.withCredentials :: events) world)

theorem Run.serves_of_isOpen {Note : Type} {run : Run World Note} (opened : run.isOpen = true)
    (transport : Transport World) (client : Client) : run.Serves transport client := by
  intro call request written
  obtain ⟨events, result, world, hops⟩ :=
    Hops.exists transport Redirect.limit request.withCredentials run.world
  obtain ⟨others, rfl⟩ := hops.begins
  exact ⟨result, _, world, (Attempt.sent written rfl hops).performed rfl opened⟩

section Calls

variable {transport : Transport World} {client : Client} {isOpen : Bool} {call : Call}
  {world after : World} {events : List Event}

theorem Attempt.keepsClient {result : Except Fault Reply}
    (attempt : Attempt transport client isOpen call world events result after) :
    .opened ∉ events ∧ .closed ∉ events := by
  obtain ⟨requests, rfl⟩ := attempt.called
  simp

/-- A call neither makes a client nor closes one. -/
theorem Course.keepsClient {left pauses : Nat} {result : Except Stop Reply}
    (course : Course transport client isOpen call left pauses world events result after) :
    .opened ∉ events ∧ .closed ∉ events := by
  induction course with
  | cancelledBefore => simp
  | cancelledDuring _ attempt _ | replied _ attempt _ | failed _ attempt _ => exact attempt.keepsClient
  | repeated _ attempt _ _ ih => simpa [attempt.keepsClient] using ih

end Calls

end Http

namespace Exchange

/-- The exchange with another user agent in the requests for a token; those for a document have the user
agent of the settings. -/
def withAgent (agent : String) (exchange : Exchange) : Exchange :=
  match exchange.purpose with
  | .token _ _ =>
      { exchange with events := exchange.events.map (Event.changed (Request.withAgent agent)) }
  | .document _ _ => exchange

end Exchange

def Registry.lent (client : Client) (registry : Registry) : Registry :=
  { registry with client, ownsClient := false }

section Calls

variable {transport : Transport World} {registry : Registry} {image : Image.Reference}
  {isOpen : Bool} {world after : World} {exchanges : List Exchange}
  {result : Except Failure Image.Labels} {own agent : String} {client : Client}

theorem Conversation.keepsClient {position : Position}
    (conversation : Conversation transport registry image isOpen position world exchanges result
      after) :
    .opened ∉ exchanges.flatMap Exchange.events ∧ .closed ∉ exchanges.flatMap Exchange.events := by
  induction conversation with
  | finished => simp
  | calls course _ ih =>
      have first := course.keepsClient
      simp [first, ih]

/-- What is asked for a document with does not depend on the client. -/
theorem Purpose.request_document (made : Client.ofUserAgent own = .ok registry.client)
    (default : Client.ofUserAgent agent = .ok client) (stage : Stage)
    (bearer : Option (List CodePoint)) (world : World) :
    transport.request world ((Purpose.document stage bearer).call registry image) client =
      transport.request world ((Purpose.document stage bearer).call registry image)
        registry.client := by
  apply Call.request_covered
  intro given written
  have covered (text : String) : ∀ header ∈ [("accept", "*/*"), ("user-agent", text)],
      given.any (·.1 = header.1) = true := by
    obtain ⟨_, rfl⟩ | ⟨_, _, _, _, rfl⟩ := Headers.write_requestHeaders_cases written
    · simp
    · simp
  rw [Client.headers_ofUserAgent made, Client.headers_ofUserAgent default,
    Headers.update_covered (covered own), Headers.update_covered (covered agent)]

/-- A token is asked for with the user agent of the client. -/
theorem Purpose.request_token (made : Client.ofUserAgent own = .ok registry.client)
    (default : Client.ofUserAgent agent = .ok client) (url : String) (stage : Stage) (world : World) :
    transport.request world ((Purpose.token url stage).call registry image) client =
      (transport.request world ((Purpose.token url stage).call registry image) registry.client).map
        (Request.withAgent agent) := by
  apply Call.request_withAgent rfl
  rw [Client.headers_ofUserAgent made, Client.headers_ofUserAgent default]
  rfl

theorem Purpose.acceptsAnything_token (made : Client.ofUserAgent own = .ok registry.client)
    (url : String) (stage : Stage) (world : World) (request : Request)
    (written : transport.request world ((Purpose.token url stage).call registry image)
      registry.client = .ok request) :
    request.withCredentials.AcceptsAnything := by
  obtain ⟨given, nothing, _, kept⟩ := Call.request_headers written
  obtain rfl : given = [] := Except.ok.inj nothing.symm
  apply request.akin_withCredentials.acceptsAnything
  rw [Request.AcceptsAnything, kept "accept" (by decide) (by decide), Headers.update_nil,
    Client.headers_ofUserAgent made]
  simp [Headers.get?]

/-- Call by call, a client that was lent leads a conversation the same way as one that was made. -/
theorem Conversation.lent (made : Client.ofUserAgent own = .ok registry.client)
    (default : Client.ofUserAgent agent = .ok client) (ignoring : transport.IgnoresAgent)
    {position : Position}
    (conversation : Conversation transport registry image isOpen position world exchanges result
      after) :
    Conversation transport (registry.lent client) image isOpen position world
      (exchanges.map (Exchange.withAgent agent)) result after := by
  induction conversation with
  | finished => exact .finished
  | @calls purpose world events ending middle exchanges result after course _ ih =>
      rw [List.map_cons]
      cases purpose with
      | token url stage =>
          exact .calls (course.changed (ignoring.unnoticed agent)
            (Purpose.acceptsAnything_token made url stage)
            (Purpose.request_token made default url stage)) ih
      | document stage bearer =>
          exact .calls (course.sameRequest (Purpose.request_document made default stage bearer)) ih

end Calls

namespace Claim

def lent (claim : Claim) (client : Client) : Claim :=
  { claim with client := some client }

variable {claim : Claim} {target : Target} {registry : Registry} {client : Client}

theorem made_unaided (unaided : claim.client = none)
    (plain : ∀ char ∈ target.settings.userAgent.toList, char.toNat < 0x80) :
    ∃ registry, claim.made target = .ok registry ∧ registry.ownsClient = true ∧
      Client.ofUserAgent target.settings.userAgent = .ok registry.client := by
  obtain ⟨client, written⟩ := Client.ofUserAgent_of_plain plain
  refine ⟨.atOrigin target.origin target.settings (.forOrigin target.origin target.settings) client
    true, ?_, rfl, written⟩
  rw [Claim.made, unaided, written]
  rfl

theorem made_lent (made : claim.made target = .ok registry) :
    (claim.lent client).made target = .ok (registry.lent client) := by
  obtain ⟨_, _, rfl, _⟩ := made_atOrigin made
  rfl

/-- Two runs that begin alike, of a validation that makes its client and of one that has it lent. The
first makes the client before anything else and closes it after everything else. -/
structure Interchanged (agent : String) (run : Run World Log.Entry) (exchanges : List Exchange)
    (own lent : Run World Log.Entry) : Prop where
  ownTrace : own.trace = run.trace ++ [.opened] ++ exchanges.flatMap Exchange.events ++ [.closed]
  ownKept : .opened ∉ exchanges.flatMap Exchange.events ∧ .closed ∉ exchanges.flatMap Exchange.events
  ownClosed : own.isOpen = false
  lentTrace : lent.trace =
    run.trace ++ (exchanges.map (Exchange.withAgent agent)).flatMap Exchange.events
  lentKept : .opened ∉ (exchanges.map (Exchange.withAgent agent)).flatMap Exchange.events ∧
    .closed ∉ (exchanges.map (Exchange.withAgent agent)).flatMap Exchange.events
  lentOpen : lent.isOpen = true

/-- A validation comes to the same with a client that it makes and with one of its kind that is lent to
it, as long as the user agent makes no difference to the answers to requests for tokens and closing a
client does not cancel. The client that is made is closed by the last event and by no other, whatever the
validation came to; the one that is lent is not closed and serves whatever comes next. -/
theorem validateImage_lent (claim : Claim) (unaided : claim.client = none) {agent : String}
    {client : Client} (default : Client.ofUserAgent agent = .ok client)
    (transport : Transport World) (ignoring : transport.IgnoresAgent)
    (quiet : transport.ClosesQuietly) (environment : Settings.Environment)
    (ascii : ∀ settings, claim.settingsIn environment = .ok settings →
      ∀ char ∈ settings.userAgent.toList, char.toNat < 0x80)
    (run : Run World Log.Entry) (fresh : run.isOpen = true) :
    (Action.perform ((claim.lent client).validateImage transport environment) run).1 =
        (Action.perform (claim.validateImage transport environment) run).1 ∧
      (Action.perform ((claim.lent client).validateImage transport environment) run).2.Serves transport
        client ∧
      ((∃ failure, claim.target environment = .error failure ∧
          Action.perform (claim.validateImage transport environment) run = (.error failure, run) ∧
          Action.perform ((claim.lent client).validateImage transport environment) run =
            (.error failure, run)) ∨
        ∃ target registry exchanges,
          claim.Exchanged transport environment run target registry exchanges ∧
          Interchanged agent run exchanges
            (Action.perform (claim.validateImage transport environment) run).2
            (Action.perform ((claim.lent client).validateImage transport environment) run).2) := by
  have sameTarget : (claim.lent client).target environment = claim.target environment := rfl
  cases settled : claim.target environment with
  | error failure =>
      have resettled := sameTarget.trans settled
      rw [perform_validateImage_unsettled transport settled,
        perform_validateImage_unsettled transport resettled]
      exact ⟨rfl, Run.serves_of_isOpen fresh transport client, .inl ⟨failure, rfl, rfl, rfl⟩⟩
  | ok target =>
      have resettled := sameTarget.trans settled
      obtain ⟨registry, made, owns, written⟩ :=
        made_unaided unaided (ascii target.settings (target_eq_ok_iff.mp settled).1)
      obtain ⟨exchanges, fetched, world, notes, conversation, performed⟩ :=
        perform_validateImage transport settled made run
      have exchanged := exchanged_of_conversation settled made conversation
      have lending := conversation.lent written default ignoring
      obtain ⟨others, repeated⟩ :=
        perform_validateImage_of_conversation transport resettled (made_lent made) lending
      -- Only one of the two closes its client before the last look for a cancellation.
      have leaving : registry.leaving transport run.isOpen world = transport.close world := by
        simp [Registry.leaving, owns, fresh]
      have staying : (registry.lent client).leaving transport run.isOpen world = world := rfl
      rw [performed, repeated, leaving, staying, quiet world]
      refine ⟨rfl, Run.serves_of_isOpen ?_ transport client, .inr ?_⟩
      · simp [Registry.left, Registry.lent, fresh]
      · refine ⟨target, registry, exchanges, exchanged, ?_⟩
        refine ⟨?_, conversation.keepsClient, ?_, ?_, lending.keepsClient, ?_⟩
        · simp [Registry.left, Registry.opening, Registry.closing, owns, fresh]
        · simp [Registry.left, owns]
        · simp [Registry.left, Registry.opening, Registry.closing, Registry.lent]
        · simp [Registry.left, Registry.lent, fresh]

/-- A claim on an image whose documents need tokens, without a client of the caller. -/
def unaidedAtDocker : Claim :=
  { atBase "https://docker.io" with client := none }

/-- The transport of a script, with clients that are closed without a cancellation. -/
def quietTransport : Transport Script.World :=
  { Script.transport with close := id }

def otherClient : Client :=
  ⟨[("accept", "*/*"), ("user-agent", "other/1.0")]⟩

/-- An image is not found, with a client that was made as well as with one that was lent. -/
theorem granted_lent :
    (Action.perform ((unaidedAtDocker.lent otherClient).validateImage quietTransport fun _ => none)
        grantingRun).1 = .error (.imageNotFound ⟨⟨"me", "server"⟩, "1"⟩ 404) ∧
      (Action.perform ((unaidedAtDocker.lent otherClient).validateImage quietTransport fun _ => none)
        grantingRun).2.Serves quietTransport otherClient ∧
      ∃ target registry exchanges,
        unaidedAtDocker.Exchanged quietTransport (fun _ => none) grantingRun target registry exchanges ∧
        Interchanged "other/1.0" grantingRun exchanges
          (Action.perform (unaidedAtDocker.validateImage quietTransport fun _ => none) grantingRun).2
          (Action.perform ((unaidedAtDocker.lent otherClient).validateImage quietTransport
            fun _ => none) grantingRun).2 := by
  have failed : (Action.perform (unaidedAtDocker.validateImage quietTransport fun _ => none)
      grantingRun).1 = .error (.imageNotFound ⟨⟨"me", "server"⟩, "1"⟩ 404) := by
    decide +kernel
  have default : Client.ofUserAgent "other/1.0" = .ok otherClient := by decide +kernel
  have plain : Settings.defaultUserAgent.toList.all (fun char => char.toNat < 0x80) = true := by
    decide +kernel
  have ascii (settings : Settings) (given : unaidedAtDocker.settingsIn (fun _ => none) = .ok settings) :
      ∀ char ∈ settings.userAgent.toList, char.toNat < 0x80 := by
    cases given
    exact fun char member => of_decide_eq_true (List.all_eq_true.mp plain char member)
  obtain ⟨same, serves, ⟨_, unsettled, _⟩ | interchanged⟩ := validateImage_lent unaidedAtDocker rfl
    default quietTransport (fun _ _ _ _ => rfl) (fun _ => rfl) (fun _ => none) ascii grantingRun rfl
  · have settled : (unaidedAtDocker.target fun _ => none).toOption.isSome = true := by
      decide +kernel
    rw [unsettled] at settled
    cases settled
  · exact ⟨same.trans failed, serves, interchanged⟩

/-- A transport that refuses a token to clients of the usual user agent. -/
def refusingTransport : Transport Script.World :=
  { quietTransport with
    respond := fun request world =>
      if request.headers.get? "accept" = some "*/*" &&
          request.headers.get? "user-agent" = some Settings.defaultUserAgent then
        (.ok ⟨403, none, []⟩, world)
      else
        quietTransport.respond request world }

/-- Where a token depends on the user agent, it does matter whose client asks: the client that is made is
refused, and the one that is lent is not. -/
theorem agent_noticed :
    Client.ofUserAgent "other/1.0" = .ok otherClient ∧ refusingTransport.ClosesQuietly ∧
      (Action.perform (unaidedAtDocker.validateImage refusingTransport fun _ => none)
        grantingRun).1 = .error (.token (.status 403)) ∧
      (Action.perform ((unaidedAtDocker.lent otherClient).validateImage refusingTransport fun _ => none)
        grantingRun).1 = .error (.imageNotFound ⟨⟨"me", "server"⟩, "1"⟩ 404) := by
  refine ⟨?_, fun _ => rfl, ?_, ?_⟩
  · decide +kernel
  · decide +kernel
  · decide +kernel

end Claim

end ImageOwnership
