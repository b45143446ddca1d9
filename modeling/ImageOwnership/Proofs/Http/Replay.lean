import ImageOwnership.Http.Script
import ImageOwnership.Proofs.Http.Trace

/-!
Cancellations in time. Where a look for a cancellation changes nothing, the world after any part of a
trace can be told from the events alone, and with it the moment from which on the caller has cancelled.
After that moment a call may end what it has begun, but it begins nothing.
-/

namespace ImageOwnership.Http

variable {World : Type}

namespace Transport

/-- The caller has cancelled. -/
def IsSet (transport : Transport World) (world : World) : Prop :=
  (transport.isCancelled world).1 = true

instance (transport : Transport World) (world : World) : Decidable (transport.IsSet world) :=
  inferInstanceAs (Decidable (_ = true))

/-- The world after an event. -/
def step (transport : Transport World) (world : World) : Event → World
  | .opened => world
  | .called _ => world
  | .sent request => (transport.respond request world).2
  | .paused seconds => transport.pause seconds world
  | .closed => transport.close world

def replay (transport : Transport World) : World → List Event → World :=
  List.foldl transport.step

/-- The caller cancels once and for all, while a request is served, during a pause, or while a client is
closed; a look changes nothing. -/
structure Latches (transport : Transport World) : Prop where
  look : ∀ world, (transport.isCancelled world).2 = world
  respond : ∀ request world, transport.IsSet world →
    transport.IsSet (transport.respond request world).2
  pause : ∀ seconds world, transport.IsSet world → transport.IsSet (transport.pause seconds world)
  close : ∀ world, transport.IsSet world → transport.IsSet (transport.close world)

variable {transport : Transport World} {world : World} {events more : List Event}

@[simp] theorem replay_append :
    transport.replay world (events ++ more) =
      transport.replay (transport.replay world events) more :=
  List.foldl_append ..

theorem Latches.unset (latches : transport.Latches) {after : World}
    (looked : transport.isCancelled world = (false, after)) :
    after = world ∧ ¬ transport.IsSet world := by
  have same := latches.look world
  rw [looked] at same
  exact ⟨same, by simp [IsSet, looked]⟩

theorem Latches.step (latches : transport.Latches) (set : transport.IsSet world) (event : Event) :
    transport.IsSet (transport.step world event) := by
  cases event with
  | opened => exact set
  | called url => exact set
  | sent request => exact latches.respond request world set
  | paused seconds => exact latches.pause seconds world set
  | closed => exact latches.close world set

theorem Latches.replay (latches : transport.Latches) (set : transport.IsSet world) :
    transport.IsSet (transport.replay world events) := by
  induction events generalizing world with
  | nil => exact set
  | cons event rest ih => exact ih (latches.step set event)

end Transport

theorem Script.latches : Script.transport.Latches where
  look _ := rfl
  respond := by
    intro request world set
    simp only [Transport.IsSet, Script.transport, Script.transportWith, decide_eq_true_eq] at set ⊢
    split
    · exact set
    · simp only [Script.World.respond]
      split
      · exact set
      · split
        · simp [Script.World.setCancelled, set]
        · exact set
  pause := by
    intro seconds world set
    simp only [Transport.IsSet, Script.transport, Script.transportWith, decide_eq_true_eq,
      Script.World.pause] at set ⊢
    split
    · simp [Script.World.setCancelled, set]
    · exact set
  close := by
    intro world set
    simp only [Transport.IsSet, Script.transport, Script.transportWith, decide_eq_true_eq,
      Script.World.close] at set ⊢
    split
    · simp [Script.World.setCancelled, set]
    · exact set

/-! ### The world is the one that the events leave -/

section Replay

variable {transport : Transport World} {client : Client} {isOpen : Bool} {call : Call}
  {world after : World} {events : List Event}

theorem Answered.replayed {request : Request} {result : Except Fault Response}
    (answered : Answered transport request world result after) :
    after = transport.step world (.sent request) := by
  cases answered with
  | failed answer => simp [Transport.step, answer]
  | unreadable answer _ => simp [Transport.step, answer]
  | delivered answer _ => simp [Transport.step, answer]

theorem Hops.replayed {left : Nat} {request : Request} {result : Except Fault Reply}
    (hops : Hops transport left request world events result after) :
    after = transport.replay world events := by
  induction hops with
  | failed answered => exact answered.replayed
  | arrived answered _ => exact answered.replayed
  | astray answered _ _ => exact answered.replayed
  | tooMany answered _ _ => exact answered.replayed
  | onward answered _ _ _ ih =>
      rw [ih, answered.replayed]
      rfl

theorem Attempt.replayed {result : Except Fault Reply}
    (attempt : Attempt transport client isOpen call world events result after) :
    after = transport.replay world events := by
  cases attempt with
  | unwritable _ => rfl
  | closed _ _ => rfl
  | sent _ _ hops => exact hops.replayed

variable {left pauses : Nat} {result : Except Stop Reply}

theorem Course.replayed (latches : transport.Latches)
    (course : Course transport client isOpen call left pauses world events result after) :
    after = transport.replay world events := by
  induction course with
  | @cancelledBefore _ _ world after cancelled =>
      have same := latches.look world
      rw [cancelled] at same
      exact same
  | @cancelledDuring _ _ world begun events reply replied after uncancelled attempt cancelled =>
      have same := latches.look replied
      rw [cancelled] at same
      rw [show after = replied from same, attempt.replayed, (latches.unset uncancelled).1]
  | replied uncancelled attempt still =>
      rw [(latches.unset still).1, attempt.replayed, (latches.unset uncancelled).1]
  | failed uncancelled attempt _ => rw [attempt.replayed, (latches.unset uncancelled).1]
  | repeated uncancelled attempt _ _ ih =>
      rw [ih, attempt.replayed, (latches.unset uncancelled).1, Transport.replay_append]
      rfl

end Replay

/-! ### What may follow a cancellation -/

/-- No call and no request. -/
def Still (events : List Event) : Prop :=
  ∀ event ∈ events, (∀ url, event ≠ .called url) ∧ ∀ request, event ≠ .sent request

/-- No call, and no requests but those that come at once, which an attempt in flight still sends. -/
def Subsides (events : List Event) : Prop :=
  ∃ (requests : List Request) (rest : List Event), events = requests.map .sent ++ rest ∧ Still rest

/-- From any moment at which the caller has cancelled, the events subside. -/
def Winds (transport : Transport World) (world : World) (events : List Event) : Prop :=
  ∀ earlier later, events = earlier ++ later → transport.IsSet (transport.replay world earlier) →
    Subsides later

theorem still_nil : Still [] := by
  simp [Still]

theorem still_append {events more : List Event} (first : Still events) (second : Still more) :
    Still (events ++ more) := by
  intro event member
  obtain here | there := List.mem_append.mp member
  · exact first event here
  · exact second event there

theorem still_paused (seconds : Nat) : Still [.paused seconds] := by
  simp [Still]

theorem Still.subsides {events : List Event} (still : Still events) : Subsides events :=
  ⟨[], events, rfl, still⟩

theorem Subsides.append {events more : List Event} (subsides : Subsides events)
    (still : Still more) : Subsides (events ++ more) := by
  obtain ⟨requests, rest, rfl, quiet⟩ := subsides
  exact ⟨requests, rest ++ more, by simp, still_append quiet still⟩

section Winds

variable {transport : Transport World} {client : Client} {isOpen : Bool} {call : Call}
  {world after : World} {events more : List Event} {left pauses : Nat} {result : Except Stop Reply}

theorem Still.winds (still : Still events) : Winds transport world events := by
  intro earlier later split _
  refine Still.subsides ?_
  intro event member
  exact still event (split ▸ List.mem_append_right earlier member)

theorem Winds.append (latches : transport.Latches) (first : Winds transport world events)
    (second : Winds transport (transport.replay world events) more)
    (unbegun : transport.IsSet (transport.replay world events) → Still more) :
    Winds transport world (events ++ more) := by
  intro earlier later split set
  -- The moment lies in the second part, or in the first: then the second part must not even begin.
  obtain ⟨middle, rfl, rfl⟩ | ⟨middle, rfl, rfl⟩ := List.append_eq_append_iff.mp split
  · rw [Transport.replay_append] at set
    exact second middle later rfl set
  · have onward : transport.IsSet (transport.replay world (earlier ++ middle)) := by
      rw [Transport.replay_append]
      exact latches.replay set
    exact (first earlier middle rfl set).append (unbegun onward)

theorem Attempt.winds {result : Except Fault Reply}
    (attempt : Attempt transport client isOpen call world events result after)
    (unset : ¬ transport.IsSet world) : Winds transport world events := by
  obtain ⟨requests, rfl⟩ := attempt.called
  intro earlier later split set
  cases earlier with
  | nil => exact absurd set unset
  | cons event others =>
      obtain ⟨_, sent⟩ := List.cons.inj split
      obtain ⟨before, rest, _, _, rfl⟩ := List.map_eq_append_iff.mp sent
      exact ⟨rest, [], by simp, still_nil⟩

theorem Course.unbegun
    (course : Course transport client isOpen call left pauses world events result after)
    (set : transport.IsSet world) : events = [] ∧ ∃ url, result = .error (.cancelled .before url) := by
  cases course with
  | cancelledBefore _ => exact ⟨rfl, _, rfl⟩
  | cancelledDuring uncancelled _ _ => simp [Transport.IsSet, uncancelled] at set
  | replied uncancelled _ _ => simp [Transport.IsSet, uncancelled] at set
  | failed uncancelled _ _ => simp [Transport.IsSet, uncancelled] at set
  | repeated uncancelled _ _ _ => simp [Transport.IsSet, uncancelled] at set

theorem Course.winds (latches : transport.Latches)
    (course : Course transport client isOpen call left pauses world events result after) :
    Winds transport world events := by
  induction course with
  | cancelledBefore _ => exact still_nil.winds
  | cancelledDuring uncancelled attempt _ =>
      obtain ⟨rfl, unset⟩ := latches.unset uncancelled
      exact attempt.winds unset
  | replied uncancelled attempt _ =>
      obtain ⟨rfl, unset⟩ := latches.unset uncancelled
      exact attempt.winds unset
  | failed uncancelled attempt _ =>
      obtain ⟨rfl, unset⟩ := latches.unset uncancelled
      exact attempt.winds unset
  | @repeated left pauses world begun earlier fault middle later result after uncancelled attempt _ rest
      ih =>
      obtain ⟨rfl, unset⟩ := latches.unset uncancelled
      have here := attempt.replayed
      subst here
      -- A cancellation before or during the pause is noticed before the next attempt.
      have unbegun (set : transport.IsSet (transport.pause (Retry.delay pauses)
          (transport.replay begun earlier))) : later = [] := (rest.unbegun set).1
      have again : Winds transport (transport.replay begun earlier)
          ([.paused (Retry.delay pauses)] ++ later) := by
        refine Winds.append latches (still_paused _).winds ih ?_
        intro set
        rw [unbegun set]
        exact still_nil
      refine Winds.append latches (attempt.winds unset) again ?_
      intro set
      rw [unbegun (latches.pause _ _ set)]
      exact still_paused _

theorem Course.unset_of_replied (latches : transport.Latches) {reply : Reply}
    (course : Course transport client isOpen call left pauses world events (.ok reply) after) :
    ¬ transport.IsSet after := by
  generalize given : (Except.ok reply : Except Stop Reply) = result at course
  induction course with
  | cancelledBefore _ => cases given
  | cancelledDuring _ _ _ => cases given
  | replied _ _ still =>
      obtain ⟨rfl, unset⟩ := latches.unset still
      exact unset
  | failed _ _ _ => cases given
  | repeated _ _ _ _ ih => exact ih given

end Winds

end ImageOwnership.Http
