import ImageOwnership.Proofs.Http.Issued
import ImageOwnership.Proofs.Http.Replay
import ImageOwnership.Proofs.Http.Scripted

/-!
Calls whose answers come late. Before each answer there may be some timeouts, and as long as a call may
be repeated that often and cookies last, it comes to the same ending. What is left of its events without
the attempts that time out and without the pauses is what a call with prompt answers leaves behind.
-/

namespace ImageOwnership.Http

/-! ### Timeouts in a trace -/

/-- Whether a timeout stands where a response might. -/
def timedOut : Except RequestError Response → Bool
  | .error error => error.kind.isTimeout
  | .ok _ => false

namespace Transport

variable {World : Type}

/-- Whether a request gets no response in time. -/
def timesOut (transport : Transport World) (world : World) (request : Request) : Bool :=
  timedOut (transport.respond request world).1

/-- The events from a world on without the attempts that time out and without the pauses. Where nothing
redirects, an attempt sends one request. -/
def withoutTimeouts (transport : Transport World) : World → List Event → List Event
  | _, [] => []
  | world, .called url :: .sent request :: rest =>
      let others := transport.withoutTimeouts (transport.step world (.sent request)) rest
      if transport.timesOut world request then others else .called url :: .sent request :: others
  | world, .paused seconds :: rest =>
      transport.withoutTimeouts (transport.step world (.paused seconds)) rest
  | world, event :: rest => event :: transport.withoutTimeouts (transport.step world event) rest

end Transport

/-- No request is sent by the first event, if there is one. -/
def Afresh : List Event → Prop
  | .sent _ :: _ => False
  | _ => True

section Events

variable {World : Type} {transport : Transport World} {client : Client} {isOpen : Bool} {call : Call}
  {world after : World} {events rest : List Event}

theorem Transport.withoutTimeouts_called (url : String) (afresh : Afresh rest) :
    transport.withoutTimeouts world (.called url :: rest) =
      .called url :: transport.withoutTimeouts world rest := by
  cases rest with
  | nil => rfl
  | cons event others =>
      cases event with
      | sent request => exact afresh.elim
      | _ => rfl

theorem Transport.withoutTimeouts_sent {request : Request} {answer : Except RequestError Response}
    (given : transport.respond request world = (answer, after)) (url : String) :
    transport.withoutTimeouts world (.called url :: .sent request :: rest) =
      if timedOut answer then transport.withoutTimeouts after rest
      else .called url :: .sent request :: transport.withoutTimeouts after rest := by
  simp [withoutTimeouts, timesOut, step, given]

theorem Course.afresh {left pauses : Nat} {result : Except Stop Reply}
    (course : Course transport client isOpen call left pauses world events result after)
    (afresh : Afresh rest) : Afresh (events ++ rest) := by
  obtain ⟨_, rfl, _⟩ | ⟨later, rfl⟩ := course.attempted
  · exact afresh
  · trivial

end Events

/-! ### Attempts with one answer -/

/-- What an answer comes to for the request that it is given to, unless it leads on. -/
def Request.received (request : Request) : Except RequestError Response → Except Fault Reply
  | .error error => .error (.request error)
  | .ok response => (request.url.checkHost.mapError .host).map fun _ => ⟨request.url, response⟩

/-- The request that a call puts to a transport. -/
structure Call.Asks {World : Type} (call : Call) (transport : Transport World) (world : World)
    (client : Client) (isOpen : Bool) (request : Request) : Prop where
  written : ∃ given, transport.request world call client = .ok given ∧
    request = given.withCredentials
  opened : isOpen = true

section Attempts

variable {World : Type} {transport : Transport World} {client : Client} {isOpen : Bool} {call : Call}
  {request : Request} {world after : World}

theorem Request.received_timedOut {answer : Except RequestError Response} {fault : Fault}
    (failed : request.received answer = .error fault) : Retry.isTimeout fault = timedOut answer := by
  cases answer with
  | error error =>
      cases failed
      rfl
  | ok response =>
      cases host : request.url.checkHost with
      | error cause =>
          rw [Request.received, host] at failed
          cases failed
          rfl
      | ok _ =>
          rw [Request.received, host] at failed
          cases failed

theorem Attempt.asked (asks : call.Asks transport world client isOpen request)
    {answer : Except RequestError Response} (stays : ∀ response, answer = .ok response →
      response.redirect? = none)
    (given : transport.respond request world = (answer, after)) :
    Attempt transport client isOpen call world [.called call.url, .sent request]
      (request.received answer) after := by
  obtain ⟨⟨written, whole, rfl⟩, opened⟩ := asks
  refine .sent whole opened ?_
  cases answer with
  | error error => exact .failed (.failed given)
  | ok response =>
      cases host : written.withCredentials.url.checkHost with
      | error fault =>
          rw [Request.received, host]
          exact .failed (.unreadable given host)
      | ok _ =>
          rw [Request.received, host]
          exact .arrived (.delivered given host) (stays response rfl)

theorem Course.single {left pauses : Nat} {events : List Event} {result : Except Fault Reply}
    (uncancelled : transport.isCancelled world = (false, world))
    (attempt : Attempt transport client isOpen call world events result after)
    (still : transport.isCancelled after = (false, after))
    (final : ∀ fault, result = .error fault → Retry.isTimeout fault = false) :
    Course transport client isOpen call left pauses world events (result.mapError .fault) after := by
  cases result with
  | error fault => exact .failed uncancelled attempt (.inr (final fault rfl))
  | ok reply => exact .replied uncancelled attempt still

end Attempts

/-! ### Scripts -/

namespace Script

/-- An answer that comes in time and leads nowhere else, and all cookies that it sets last. -/
structure Prompt (lasts : String → Prop) (answer : Answer) : Prop where
  punctual : timedOut answer.result = false
  stays : ∀ response, answer.result = .ok response → response.redirect? = none
  lasting : ∀ line ∈ answer.cookieLines, lasts line

/-- The same answers with timeouts inserted, before each answer a number of them at most. -/
inductive Delayed (most : Nat) : List Answer → List Answer → Prop where
  | nil : Delayed most [] []
  | cons {answer : Answer} {answers others timeouts : List Answer}
      (late : ∀ timeout ∈ timeouts, timedOut timeout.result = true) (few : timeouts.length ≤ most)
      (rest : Delayed most answers others) :
      Delayed most (answer :: answers) (timeouts ++ answer :: others)

/-- Two undisturbed worlds with the same answers, which are prompt in the one and may come late in the
other. So far they have kept the same cookies. -/
structure Lags (lasts : String → Prop) (most : Nat) (world late : World) : Prop where
  undisturbed : world.Undisturbed
  lateUndisturbed : late.Undisturbed
  prompt : ∀ answer ∈ world.answers, Prompt lasts answer
  delayed : Delayed most world.answers late.answers
  cookies : world.SameCookies lasts late

variable {world late : World} {lasts : String → Prop} {most : Nat}

theorem Lags.ofAnswers {answers others : List Answer}
    (prompt : ∀ answer ∈ answers, Prompt lasts answer) (delayed : Delayed most answers others) :
    Lags lasts most (.ofAnswers answers) (.ofAnswers others) := by
  refine ⟨World.undisturbed_ofAnswers _, World.undisturbed_ofAnswers _, ?_, ?_, ⟨?_, rfl⟩⟩
  · rwa [World.answers_ofAnswers]
  · rwa [World.answers_ofAnswers, World.answers_ofAnswers]
  · simp [World.ofAnswers]

theorem Delayed.split {answers others : List Answer} (delayed : Delayed most answers others) :
    ∃ timeouts rest : List Answer, others = timeouts ++ rest ∧
      (∀ timeout ∈ timeouts, timedOut timeout.result = true) ∧ timeouts.length ≤ most ∧
      rest.head? = answers.head? ∧ Delayed most answers.tail rest.tail := by
  cases delayed with
  | nil => exact ⟨[], [], rfl, by simp, by simp, rfl, .nil⟩
  | cons late few rest => exact ⟨_, _, rfl, late, few, rfl, rest⟩

theorem Lags.first (lags : Lags lasts most world late) : Prompt lasts world.first := by
  have prompt := lags.prompt
  unfold World.first
  cases answers : world.answers with
  | nil => exact ⟨rfl, nofun, by simp⟩
  | cons answer others =>
      rw [answers] at prompt
      exact prompt answer (List.mem_cons_self ..)

/-- Behind the timeouts the same answer is taken in both worlds, and they go on alike. -/
theorem Lags.answered (lags : Lags lasts most world late) (url : Url) :
    ∃ (timeouts remaining : List Answer) (after : World),
      late.answers = timeouts ++ remaining ∧
      (∀ timeout ∈ timeouts, timedOut timeout.result = true) ∧ timeouts.length ≤ most ∧
      world.respond url = (world.first.result, after) ∧
      ∀ middle : World, middle.Undisturbed → middle.answers = remaining →
        world.SameCookies lasts middle →
        ∃ lateAfter, middle.respond url = (world.first.result, lateAfter) ∧
          Lags lasts most after lateAfter := by
  obtain ⟨timeouts, remaining, split, slow, few, same, delayed⟩ := lags.delayed.split
  obtain ⟨after, answered, rest, kept, still⟩ := lags.undisturbed.respond url
  refine ⟨timeouts, remaining, after, split, slow, few, answered, ?_⟩
  intro middle calm given cookies
  obtain ⟨lateAfter, lateAnswered, lateRest, lateKept, lateStill⟩ := calm.respond url
  have first : middle.first = world.first := by
    rw [World.first, World.first, given, same]
  rw [first] at lateAnswered lateKept
  rw [given] at lateRest
  refine ⟨lateAfter, lateAnswered, still, lateStill, ?_, ?_, ?_⟩
  · intro answer member
    rw [rest] at member
    exact lags.prompt answer (List.mem_of_mem_tail member)
  · rw [rest, lateRest]
    exact delayed
  · exact cookies.answered lags.first.lasting kept lateKept

end Script

/-! ### Courses -/

section Courses

open Script (Lags transportWith)

variable {names : Url.HostNames} {rules : Script.CookieRules} {lasts : String → Prop} {client : Client}
  {isOpen : Bool} {call : Call} {request : Request} {world late : Script.World}

theorem Call.Asks.elsewhere (asks : call.Asks (transportWith names rules) world client isOpen request)
    (lasting : rules.Lasting lasts) (cookies : world.SameCookies lasts late) :
    call.Asks (transportWith names rules) late client isOpen request := by
  refine ⟨?_, asks.opened⟩
  rw [cookies.request lasting]
  exact asks.written

theorem Script.unsupported?_not_timedOut {scheme : String} {error : RequestError}
    (unsupported : unsupported? scheme = some error) : timedOut (.error error) = false := by
  unfold unsupported? at unsupported
  split at unsupported
  · cases unsupported
  · split at unsupported
    all_goals
      cases unsupported
      rfl

/-- A call that takes no answer fails, wherever the same cookies are kept, and not by a timeout. -/
theorem Call.asks_or_fails (names : Url.HostNames) (lasting : rules.Lasting lasts) (client : Client)
    (isOpen : Bool) (call : Call) (world : Script.World) :
    (∃ request, call.Asks (transportWith names rules) world client isOpen request ∧
        Script.unsupported? request.url.scheme = none) ∨
      ∃ events fault, Retry.isTimeout fault = false ∧
        ∀ late, world.SameCookies lasts late →
          Attempt (transportWith names rules) client isOpen call late events (.error fault) late ∧
          ∀ rest, Afresh rest → (transportWith names rules).withoutTimeouts late (events ++ rest) =
            events ++ (transportWith names rules).withoutTimeouts late rest := by
  cases written : (transportWith names rules).request world call client with
  | error fault =>
      refine .inr ⟨[.called call.url], fault, Transport.request_not_isTimeout written, ?_⟩
      intro late cookies
      refine ⟨.unwritable ((cookies.request lasting ..).trans written), ?_⟩
      intro rest afresh
      exact Transport.withoutTimeouts_called call.url afresh
  | ok given =>
      cases state : isOpen with
      | false =>
          refine .inr ⟨[.called call.url], .clientClosed, rfl, ?_⟩
          intro late cookies
          refine ⟨.closed ((cookies.request lasting ..).trans written) rfl, ?_⟩
          intro rest afresh
          exact Transport.withoutTimeouts_called call.url afresh
      | true =>
          have asks : call.Asks (transportWith names rules) world client true given.withCredentials :=
            ⟨⟨given, written, rfl⟩, rfl⟩
          cases scheme : Script.unsupported? given.withCredentials.url.scheme with
          | none => exact .inl ⟨_, asks, scheme⟩
          | some error =>
              have punctual := Script.unsupported?_not_timedOut scheme
              refine .inr ⟨[.called call.url, .sent given.withCredentials], .request error, punctual, ?_⟩
              intro late cookies
              have refused := Script.respond_unsupported names rules scheme late
              refine ⟨.asked (asks.elsewhere lasting cookies) (by simp) refused, ?_⟩
              intro rest _
              simp only [List.cons_append, List.nil_append]
              rw [Transport.withoutTimeouts_sent refused, punctual]
              rfl

/-- While a call may be repeated, it goes on after each timeout, and none of its events counts. -/
theorem Course.afterTimeouts (lasting : rules.Lasting lasts)
    (asks : call.Asks (transportWith names rules) world client isOpen request)
    (supported : Script.unsupported? request.url.scheme = none)
    (undisturbed : late.Undisturbed) (cookies : world.SameCookies lasts late)
    {timeouts answers : List Script.Answer}
    (slow : ∀ timeout ∈ timeouts, timedOut timeout.result = true)
    (given : late.answers = timeouts ++ answers) (left pauses : Nat)
    (few : timeouts.length ≤ left) :
    ∃ events final fewer more, final.Undisturbed ∧ final.answers = answers ∧
      world.SameCookies lasts final ∧
      (∀ others result after,
        Course (transportWith names rules) client isOpen call fewer more final others result after →
        Course (transportWith names rules) client isOpen call left pauses late (events ++ others)
          result after) ∧
      ∀ rest, (transportWith names rules).withoutTimeouts late (events ++ rest) =
        (transportWith names rules).withoutTimeouts final rest := by
  induction timeouts generalizing late left pauses with
  | nil =>
      exact ⟨[], late, left, pauses, undisturbed, given, cookies, fun _ _ _ course => course,
        fun _ => rfl⟩
  | cons timeout others ih =>
      -- The timeout uses up a repetition; the pause that follows it leaves answers and cookies alone.
      obtain ⟨middle, answered, remaining, kept, calm⟩ := undisturbed.respond request.url
      have next : late.first = timeout := by
        simp [Script.World.first, given]
      rw [next] at answered kept
      rw [given] at remaining
      obtain ⟨paused, unasked, unchanged⟩ := calm.pause (Retry.delay pauses)
      have first : timedOut timeout.result = true := slow timeout (List.mem_cons_self ..)
      have later : ∀ other ∈ others, timedOut other.result = true :=
        fun other member => slow other (List.mem_cons_of_mem _ member)
      rw [← Script.respond_supported names rules supported] at answered
      cases result : timeout.result with
      | ok response =>
          rw [result] at first
          cases first
      | error error =>
          rw [result] at answered first
          cases left with
          | zero => simp at few
          | succ left =>
              have attempt := Attempt.asked (asks.elsewhere lasting cookies) (by simp) answered
              have same : world.SameCookies lasts (middle.pause (Retry.delay pauses)) := by
                refine ⟨cookies.lasting, ?_⟩
                rw [unchanged, kept, cookies.same]
                simp [Script.Answer.linesFrom, result]
              obtain ⟨events, final, fewer, more, still, rest, finalCookies, onward, erased⟩ :=
                ih paused same later (unasked.trans remaining) left (pauses + 1)
                  (Nat.le_of_succ_le_succ few)
              refine ⟨[.called call.url, .sent request] ++ .paused (Retry.delay pauses) :: events,
                final, fewer, more, still, rest, finalCookies, ?_, ?_⟩
              · intro others result after course
                have rest := onward others result after course
                have uncancelled := undisturbed.isCancelled names rules
                have repeated := Course.repeated uncancelled attempt first rest
                simpa using repeated
              · intro tail
                have dropped := erased tail
                simp only [List.cons_append, List.nil_append]
                rw [Transport.withoutTimeouts_sent answered, if_pos first]
                exact dropped

/-- A call whose answer comes late has the ending of the call whose answer is prompt, and the same events
up to timeouts. -/
theorem Course.delayed (names : Url.HostNames) (lasting : rules.Lasting lasts) (client : Client)
    (isOpen : Bool) (call : Call) {most : Nat} (lags : Lags lasts most world late) {left : Nat}
    (enough : most ≤ left) (pauses : Nat) :
    ∃ events others ending after lateAfter,
      Course (transportWith names rules) client isOpen call left pauses world events ending after ∧
      Course (transportWith names rules) client isOpen call left pauses late others ending lateAfter ∧
      Lags lasts most after lateAfter ∧
      ∀ rest, Afresh rest →
        (transportWith names rules).withoutTimeouts late (others ++ rest) =
          events ++ (transportWith names rules).withoutTimeouts lateAfter rest := by
  have here := lags.undisturbed.isCancelled names rules
  have there := lags.lateUndisturbed.isCancelled names rules
  -- Either the call takes an answer in both worlds, or it fails by itself in both.
  obtain ⟨request, asks, supported⟩ | ⟨events, fault, final, fails⟩ :=
    Call.asks_or_fails names lasting client isOpen call world
  · obtain ⟨timeouts, remaining, after, split, slow, few, answered, behind⟩ :=
      lags.answered request.url
    obtain ⟨events, middle, fewer, more, calm, given, same, onward, erased⟩ :=
      Course.afterTimeouts lasting asks supported lags.lateUndisturbed lags.cookies slow split left
        pauses (Nat.le_trans few enough)
    obtain ⟨lateAfter, lateAnswered, lagging⟩ := behind middle calm given same
    rw [← Script.respond_supported names rules supported] at answered lateAnswered
    have prompt := lags.first
    have final : ∀ fault, request.received world.first.result = .error fault →
        Retry.isTimeout fault = false :=
      fun fault failed => (Request.received_timedOut failed).trans prompt.punctual
    have attempt := Attempt.asked asks prompt.stays answered
    have lateAttempt := Attempt.asked (asks.elsewhere lasting same) prompt.stays lateAnswered
    have lateCourse := onward _ _ lateAfter
      (.single (calm.isCancelled names rules) lateAttempt
        (lagging.lateUndisturbed.isCancelled names rules) final)
    refine ⟨_, _, _, after, lateAfter,
      .single here attempt (lagging.undisturbed.isCancelled names rules) final, lateCourse, lagging, ?_⟩
    intro rest _
    rw [List.append_assoc, erased]
    simp only [List.cons_append, List.nil_append]
    rw [Transport.withoutTimeouts_sent lateAnswered, prompt.punctual]
    rfl
  · obtain ⟨attempt, _⟩ := fails world (.refl lags.cookies.lasting)
    obtain ⟨lateAttempt, kept⟩ := fails late lags.cookies
    have last : ∀ cause, (.error fault : Except Fault Reply) = .error cause →
        Retry.isTimeout cause = false := by
      rintro cause ⟨⟩
      exact final
    exact ⟨events, events, _, world, late, .single here attempt here last,
      .single there lateAttempt there last, lags, kept⟩

end Courses

end ImageOwnership.Http
