import ImageOwnership.Proofs.Http.Trace

/-!
What a call may cost. Each attempt asks the client once, and no more requests follow than redirects are
followed; before each repetition there is one pause, of a length within bounds.
-/

namespace ImageOwnership.Http

namespace Event

def isCall : Event → Bool
  | called _ => true
  | _ => false

def isRequest : Event → Bool
  | sent _ => true
  | _ => false

def isPause : Event → Bool
  | paused _ => true
  | _ => false

variable (url : String) (requests : List Request)

theorem countP_isCall_called : (called url :: requests.map sent).countP isCall = 1 := by
  have none : (requests.map sent).countP isCall = 0 := by
    simp [List.countP_eq_zero, isCall]
  rw [List.countP_cons_of_pos rfl, none]

theorem countP_isPause_called : (called url :: requests.map sent).countP isPause = 0 := by
  simp [List.countP_eq_zero, isPause]

theorem countP_isRequest_called :
    (called url :: requests.map sent).countP isRequest = requests.length := by
  have all : (requests.map sent).countP isRequest = (requests.map sent).length := by
    rw [List.countP_eq_length]
    simp [isRequest]
  rw [List.countP_cons_of_neg Bool.false_ne_true, all, List.length_map]

end Event

/-- Events that stay within a number of calls of the client and a number of pauses. The requests are as
many as the redirects of each call allow. -/
structure Frugal (calls pauses : Nat) (events : List Event) : Prop where
  calls : events.countP Event.isCall ≤ calls
  pauses : events.countP Event.isPause ≤ pauses
  lengths : ∀ seconds, .paused seconds ∈ events → 1 ≤ seconds ∧ seconds ≤ 10
  requests : events.countP Event.isRequest ≤ (Redirect.limit + 1) * events.countP Event.isCall

namespace Frugal

variable {calls pauses more longer : Nat} {events later : List Event}

/-- Making clients and closing them costs nothing. -/
theorem free (idle : ∀ event ∈ events, event = .opened ∨ event = .closed) : Frugal 0 0 events := by
  have none (counts : Event → Bool) (opened : counts .opened = false)
      (closed : counts .closed = false) : events.countP counts = 0 := by
    rw [List.countP_eq_zero]
    intro event member
    obtain rfl | rfl := idle event member
    · simp [opened]
    · simp [closed]
  refine ⟨Nat.le_of_eq (none _ rfl rfl), Nat.le_of_eq (none _ rfl rfl), ?_, ?_⟩
  · intro seconds member
    obtain impossible | impossible := idle _ member <;> cases impossible
  · rw [none Event.isRequest rfl rfl]
    exact Nat.zero_le _

theorem nil : Frugal 0 0 [] :=
  free nofun

theorem paused {seconds : Nat} (short : 1 ≤ seconds) (long : seconds ≤ 10) :
    Frugal 0 1 [.paused seconds] where
  calls := Nat.le_refl 0
  pauses := Nat.le_refl 1
  lengths := by
    intro other member
    cases List.mem_singleton.mp member
    exact ⟨short, long⟩
  requests := Nat.zero_le _

theorem called (url : String) {requests : List Request}
    (followed : requests.length ≤ Redirect.limit + 1) :
    Frugal 1 0 (.called url :: requests.map .sent) where
  calls := Nat.le_of_eq (Event.countP_isCall_called url requests)
  pauses := Nat.le_of_eq (Event.countP_isPause_called url requests)
  lengths := by
    simp
  requests := by
    rw [Event.countP_isCall_called, Event.countP_isRequest_called, Nat.mul_one]
    exact followed

theorem unfollowed (url : String) : Frugal 1 0 [.called url] := by
  have none : ([] : List Request).length ≤ Redirect.limit + 1 := Nat.zero_le _
  exact called url none

theorem weaken (frugal : Frugal calls pauses events) (enough : calls ≤ more)
    (plenty : pauses ≤ longer) : Frugal more longer events :=
  ⟨Nat.le_trans frugal.calls enough, Nat.le_trans frugal.pauses plenty, frugal.lengths,
    frugal.requests⟩

theorem append (first : Frugal calls pauses events) (second : Frugal more longer later) :
    Frugal (calls + more) (pauses + longer) (events ++ later) where
  calls := by
    rw [List.countP_append]
    exact Nat.add_le_add first.calls second.calls
  pauses := by
    rw [List.countP_append]
    exact Nat.add_le_add first.pauses second.pauses
  lengths := by
    intro seconds member
    obtain early | late := List.mem_append.mp member
    · exact first.lengths seconds early
    · exact second.lengths seconds late
  requests := by
    rw [List.countP_append, List.countP_append, Nat.mul_add]
    exact Nat.add_le_add first.requests second.requests

theorem flatMap {α : Type} {items : List α} {told : α → List Event}
    (each : ∀ item ∈ items, Frugal calls pauses (told item)) :
    Frugal (items.length * calls) (items.length * pauses) (items.flatMap told) := by
  induction items with
  | nil => simpa using nil
  | cons first others ih =>
      have rest := ih fun item member => each item (List.mem_cons_of_mem first member)
      have whole := (each first List.mem_cons_self).append rest
      rw [List.flatMap_cons, List.length_cons, Nat.succ_mul, Nat.succ_mul]
      exact whole.weaken (Nat.le_of_eq (Nat.add_comm _ _)) (Nat.le_of_eq (Nat.add_comm _ _))

end Frugal

theorem Retry.delay_bounds (pauses : Nat) : 1 ≤ delay pauses ∧ delay pauses ≤ 10 := by
  have positive : 0 < 2 ^ pauses := Nat.two_pow_pos pauses
  exact ⟨Nat.le_min.mpr ⟨positive, by decide⟩, Nat.min_le_right _ _⟩

section Calls

variable {World : Type} {transport : Transport World} {client : Client} {isOpen : Bool} {call : Call}
  {world after : World} {events : List Event}

/-- Each redirect that is followed leads to one more request. -/
theorem Hops.length_le {left : Nat} {request : Request} {result : Except Fault Reply}
    (hops : Hops transport left request world events result after) : events.length ≤ left + 1 := by
  induction hops with
  | failed => exact Nat.le_add_left 1 _
  | arrived => exact Nat.le_add_left 1 _
  | astray => exact Nat.le_add_left 1 _
  | tooMany => exact Nat.le_add_left 1 _
  | onward _ _ _ _ ih => exact Nat.succ_le_succ ih

theorem Attempt.frugal {result : Except Fault Reply}
    (attempt : Attempt transport client isOpen call world events result after) :
    Frugal 1 0 events := by
  cases attempt with
  | unwritable => exact .unfollowed call.url
  | closed => exact .unfollowed call.url
  | sent _ _ hops =>
      have few := hops.length_le
      obtain ⟨requests, rfl⟩ := hops.requests
      rw [List.length_map] at few
      exact .called _ few

/-- A call costs one attempt more than it may be repeated, and a pause for each repetition. -/
theorem Course.frugal {left pauses : Nat} {result : Except Stop Reply}
    (course : Course transport client isOpen call left pauses world events result after) :
    Frugal (left + 1) left events := by
  induction course with
  | cancelledBefore => exact Frugal.nil.weaken (Nat.zero_le _) (Nat.zero_le _)
  | cancelledDuring _ attempt _ =>
      exact attempt.frugal.weaken (Nat.le_add_left 1 _) (Nat.zero_le _)
  | replied _ attempt _ => exact attempt.frugal.weaken (Nat.le_add_left 1 _) (Nat.zero_le _)
  | failed _ attempt _ => exact attempt.frugal.weaken (Nat.le_add_left 1 _) (Nat.zero_le _)
  | @repeated left pauses _ _ _ _ _ _ _ _ _ attempt _ _ ih =>
      obtain ⟨short, long⟩ := Retry.delay_bounds pauses
      have again := (Frugal.paused short long).append ih
      exact (attempt.frugal.append again).weaken (by omega) (by omega)

end Calls

end ImageOwnership.Http
