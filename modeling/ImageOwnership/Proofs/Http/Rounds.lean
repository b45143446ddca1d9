import ImageOwnership.Proofs.Http.Trace
import ImageOwnership.Registry
import Mathlib.Tactic.Choose

/-!
The attempts of a call, numbered from zero. What an attempt would come to is told for each number, as
long as the attempts before it time out; the call ends with the first attempt that does not lead to
another one. An attempt that a cancellation prevents has a number as well, and the pause before it leads
up to it.
-/

namespace ImageOwnership

namespace Http.Retry

variable {World Note : Type}

/-- The seconds between an attempt and the next one. -/
def interval (number : Nat) : Nat :=
  min (max (Nat.pow 2 number) 1) 10

section Attempts

variable (transport : Transport World) (client : Client) (call : Call)

/-- What an attempt comes to, and the run after it. The caller has been looked at before. -/
def attempted (here : Run World Note) : Except Fault Reply × Run World Note :=
  Action.perform (client.get transport call) (here.advance [] (transport.isCancelled here.world).2)

/-- The run before each attempt, should all attempts before it time out. -/
def due (run : Run World Note) : Nat → Run World Note
  | 0 => run
  | number + 1 =>
      let after := (attempted transport client call (due run number)).2
      after.advance [.paused (interval number)] (transport.pause (interval number) after.world)

/-- An attempt is made and times out. -/
def TimesOut (here : Run World Note) : Prop :=
  (transport.isCancelled here.world).1 = false ∧
    ∃ fault, (attempted transport client call here).1 = .error fault ∧ isTimeout fault = true

/-- How a call ends with an attempt, which is the last one that is allowed or not. -/
inductive Ends (isLast : Prop) (here : Run World Note) :
    Except Stop Reply → Run World Note → Prop where
  | cancelledBefore {after : World} (cancelled : transport.isCancelled here.world = (true, after)) :
      Ends isLast here (.error (.cancelled .before call.url)) (here.advance [] after)
  | cancelledDuring {begun after : World} {reply : Reply} {replied : Run World Note}
      (uncancelled : transport.isCancelled here.world = (false, begun))
      (delivered : attempted transport client call here = (.ok reply, replied))
      (cancelled : transport.isCancelled replied.world = (true, after)) :
      Ends isLast here (.error (.cancelled .during call.url)) (replied.advance [] after)
  | replied {begun after : World} {reply : Reply} {replied : Run World Note}
      (uncancelled : transport.isCancelled here.world = (false, begun))
      (delivered : attempted transport client call here = (.ok reply, replied))
      (still : transport.isCancelled replied.world = (false, after)) :
      Ends isLast here (.ok reply) (replied.advance [] after)
  | failed {begun : World} {fault : Fault} {after : Run World Note}
      (uncancelled : transport.isCancelled here.world = (false, begun))
      (raised : attempted transport client call here = (.error fault, after))
      (lasting : isTimeout fault = false) :
      Ends isLast here (.error (.fault fault)) after
  | spent {begun : World} {fault : Fault} {after : Run World Note}
      (uncancelled : transport.isCancelled here.world = (false, begun))
      (raised : attempted transport client call here = (.error fault, after))
      (timedOut : isTimeout fault = true) (last : isLast) :
      Ends isLast here (.error (.fault fault)) after

end Attempts

/-- The events of an attempt: the client is called, and requests follow. -/
def attemptEvents (url : String) (requests : List Request) : List Event :=
  .called url :: requests.map .sent

/-- The events before an attempt: those of the attempts before it, with a pause after each. -/
def eventsBefore (url : String) (requests : Nat → List Request) (number : Nat) : List Event :=
  (List.range number).flatMap fun earlier =>
    attemptEvents url (requests earlier) ++ [.paused (interval earlier)]

theorem delay_eq_interval (number : Nat) : delay number = interval number := by
  have positive : 1 ≤ Nat.pow 2 number := Nat.one_le_two_pow
  rw [delay, interval, Nat.max_eq_left positive]

variable (transport : Transport World) (client : Client) (call : Call)

theorem attempted_events (here : Run World Note) :
    ∃ requests result world, attempted transport client call here =
      (result, here.advance (attemptEvents call.url requests) world) := by
  obtain ⟨events, result, after, attempt⟩ := Attempt.exists transport client here.isOpen call
    (transport.isCancelled here.world).2
  obtain ⟨requests, rfl⟩ := attempt.called
  refine ⟨requests, result, after, ?_⟩
  rw [attempted, attempt.performed (Run.advance_world _ _ _) (Run.advance_isOpen _ _ _)]
  simp [attemptEvents]

/-- One round of the loop: the call ends with this attempt, or the attempt times out, a pause follows,
and the loop goes on with the next attempt. -/
theorem perform_attempts (left number : Nat) (here : Run World Note) :
    Ends transport client call (left = 0) here
        (Action.perform (attempts transport client call left number) here).1
        (Action.perform (attempts transport client call left number) here).2 ∨
      ∃ fewer, left = fewer + 1 ∧ TimesOut transport client call here ∧
        Action.perform (attempts transport client call left number) here =
          Action.perform (attempts transport client call fewer (number + 1))
            ((attempted transport client call here).2.advance [.paused (interval number)]
              (transport.pause (interval number) (attempted transport client call here).2.world)) := by
  rcases looked : transport.isCancelled here.world with ⟨_ | _, begun⟩
  · rcases came : attempted transport client call here with ⟨fault | reply, after⟩
    · have raised : Action.perform (client.get transport call) (here.advance [] begun) =
          (.error fault, after) := by
        rw [← came, attempted, looked]
      cases timedOut : isTimeout fault with
      | false =>
          have ended : Action.perform (attempts transport client call left number) here =
              (.error (.fault fault), after) := by
            rw [attempts]
            cases left <;> simp [checkCancelled, looked, raised, timedOut]
          rw [ended]
          exact .inl (.failed looked came timedOut)
      | true =>
          cases left with
          | zero =>
              have ended : Action.perform (attempts transport client call 0 number) here =
                  (.error (.fault fault), after) := by
                rw [attempts]
                simp [checkCancelled, looked, raised]
              rw [ended]
              exact .inl (.spent looked came timedOut rfl)
          | succ fewer =>
              refine .inr ⟨fewer, rfl, ⟨by rw [looked], fault, by rw [came], timedOut⟩, ?_⟩
              rw [attempts]
              simp [checkCancelled, looked, raised, timedOut, delay_eq_interval]
    · have delivered : Action.perform (client.get transport call) (here.advance [] begun) =
          (.ok reply, after) := by
        rw [← came, attempted, looked]
      rcases later : transport.isCancelled after.world with ⟨_ | _, final⟩
      · have ended : Action.perform (attempts transport client call left number) here =
            (.ok reply, after.advance [] final) := by
          rw [attempts]
          simp [checkCancelled, looked, delivered, later]
        rw [ended]
        exact .inl (.replied looked came later)
      · have ended : Action.perform (attempts transport client call left number) here =
            (.error (.cancelled .during call.url), after.advance [] final) := by
          rw [attempts]
          simp [checkCancelled, looked, delivered, later]
        rw [ended]
        exact .inl (.cancelledDuring looked came later)
  · have ended : Action.perform (attempts transport client call left number) here =
        (.error (.cancelled .before call.url), here.advance [] begun) := by
      rw [attempts]
      simp [checkCancelled, looked]
    rw [ended]
    exact .inl (.cancelledBefore looked)

theorem perform_attempts_due {retries left number : Nat} (run : Run World Note)
    (budget : number + left = retries)
    (earlier : ∀ past < number, TimesOut transport client call (due transport client call run past)) :
    ∃ last ≤ retries,
      (∀ past < last, TimesOut transport client call (due transport client call run past)) ∧
      Ends transport client call (last = retries) (due transport client call run last)
        (Action.perform (attempts transport client call left number)
          (due transport client call run number)).1
        (Action.perform (attempts transport client call left number)
          (due transport client call run number)).2 := by
  -- The number of an attempt and the repetitions that are left after it always make up the budget.
  induction left generalizing number with
  | zero =>
      obtain ended | ⟨fewer, impossible, _⟩ :=
        perform_attempts transport client call 0 number
          (due transport client call run number)
      · refine ⟨number, by omega, earlier, ?_⟩
        have last : (number = retries) = (0 = 0) := propext (by omega)
        rwa [last]
      · cases impossible
  | succ left ih =>
      obtain ended | ⟨fewer, same, timedOut, onward⟩ :=
        perform_attempts transport client call (left + 1) number
          (due transport client call run number)
      · refine ⟨number, by omega, earlier, ?_⟩
        have another : (number = retries) = (left + 1 = 0) := propext (by omega)
        rwa [another]
      · obtain rfl := Nat.succ.inj same
        rw [onward]
        refine ih (by omega) ?_
        intro past before
        obtain older | rfl : past < number ∨ past = number := by omega
        · exact earlier past older
        · exact timedOut

variable {transport client call}

theorem due_trace {run : Run World Note} {requests : Nat → List Request}
    {result : Nat → Except Fault Reply} {world : Nat → World}
    (seen : ∀ number, attempted transport client call (due transport client call run number) =
      (result number, (due transport client call run number).advance
        (attemptEvents call.url (requests number)) (world number)))
    (number : Nat) :
    (due transport client call run number).trace =
      run.trace ++ eventsBefore call.url requests number := by
  induction number with
  | zero => simp [due, eventsBefore]
  | succ number ih => simp [due, seen, ih, eventsBefore, List.range_succ]

theorem Ends.events {isLast : Prop} {here after : Run World Note} {ending : Except Stop Reply}
    (ends : Ends transport client call isLast here ending after) {requests : List Request}
    {world : World} {result : Except Fault Reply}
    (seen : attempted transport client call here =
      (result, here.advance (attemptEvents call.url requests) world)) :
    after.trace = here.trace ++
      if (transport.isCancelled here.world).1 then [] else attemptEvents call.url requests := by
  cases ends with
  | cancelledBefore cancelled => simp [cancelled]
  | cancelledDuring uncancelled delivered _ =>
      obtain ⟨_, rfl⟩ := Prod.mk.inj (delivered.symm.trans seen)
      simp [uncancelled]
  | replied uncancelled delivered _ =>
      obtain ⟨_, rfl⟩ := Prod.mk.inj (delivered.symm.trans seen)
      simp [uncancelled]
  | failed uncancelled raised _ =>
      obtain ⟨_, rfl⟩ := Prod.mk.inj (raised.symm.trans seen)
      simp [uncancelled]
  | spent uncancelled raised _ _ =>
      obtain ⟨_, rfl⟩ := Prod.mk.inj (raised.symm.trans seen)
      simp [uncancelled]

end Http.Retry

open Http Http.Retry

/-- A call repeats its attempt as long as attempts time out and repetitions are left, with one pause
before each repetition, and it ends with the first attempt that gives another reason to. -/
theorem Registry.call_rounds {World : Type} (transport : Transport World) (registry : Registry)
    (url : String) (parameters : Option (List (String × String)))
    (headers : List (String × List CodePoint)) (run : Run World Log.Entry) :
    ∃ last ≤ registry.settings.retries, ∃ ending after requests,
      Action.perform (registry.call transport url parameters headers) run = (.ok ending, after) ∧
      let call : Call := ⟨url, parameters, headers, registry.settings.timeout⟩
      let due := due transport registry.client call run
      (∀ past < last, TimesOut transport registry.client call (due past)) ∧
      Ends transport registry.client call (last = registry.settings.retries) (due last) ending after ∧
      after.trace = run.trace ++ eventsBefore url requests last ++
        if (transport.isCancelled (due last).world).1 then []
        else attemptEvents url (requests last) := by
  let call : Call := ⟨url, parameters, headers, registry.settings.timeout⟩
  obtain ⟨last, bound, timedOut, ends⟩ := perform_attempts_due transport registry.client call run
    (Nat.zero_add registry.settings.retries) nofun
  choose requests result world seen using fun number =>
    attempted_events transport registry.client call
      (Retry.due transport registry.client call run number)
  refine ⟨last, bound, _, _, requests, ?_, timedOut, ends, ?_⟩
  · rfl
  · rw [ends.events (seen last), due_trace seen last]

end ImageOwnership
