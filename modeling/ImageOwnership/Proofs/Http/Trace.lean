import ImageOwnership.Proofs.Http.Course

/-!
What the events of a call show. Each attempt begins with the address that is called, and requests follow
it; an attempt that comes right after a pause is a repetition, so that a call with its repetitions counts
once.
-/

namespace ImageOwnership.Http

variable {World : Type} {transport : Transport World} {client : Client} {isOpen : Bool} {call : Call}
  {world after : World} {events : List Event}

/-- The addresses that are called, without the repetitions. -/
def logicalCalls : List Event → List String
  | [] => []
  | .paused _ :: .called _ :: rest => logicalCalls rest
  | .called url :: rest => url :: logicalCalls rest
  | _ :: rest => logicalCalls rest

@[simp] theorem logicalCalls_called (url : String) (rest : List Event) :
    logicalCalls (.called url :: rest) = url :: logicalCalls rest := rfl

@[simp] theorem logicalCalls_repeated (seconds : Nat) (url : String) (rest : List Event) :
    logicalCalls (.paused seconds :: .called url :: rest) = logicalCalls rest := rfl

@[simp] theorem logicalCalls_sent (requests : List Request) (rest : List Event) :
    logicalCalls (requests.map .sent ++ rest) = logicalCalls rest := by
  induction requests with
  | nil => rfl
  | cons request others ih => exact ih

/-- Nothing is called by the first event, if there is one. -/
def Calm : List Event → Prop
  | .called _ :: _ => False
  | _ => True

theorem Calm.logicalCalls_paused {rest : List Event} (calm : Calm rest) (seconds : Nat) :
    logicalCalls (.paused seconds :: rest) = logicalCalls rest := by
  cases rest with
  | nil => rfl
  | cons event others =>
      cases event with
      | called url => exact calm.elim
      | _ => rfl

theorem Hops.requests {left : Nat} {request : Request} {result : Except Fault Reply}
    (hops : Hops transport left request world events result after) :
    ∃ requests : List Request, events = requests.map .sent := by
  induction hops with
  | failed => exact ⟨[_], rfl⟩
  | arrived => exact ⟨[_], rfl⟩
  | astray => exact ⟨[_], rfl⟩
  | tooMany => exact ⟨[_], rfl⟩
  | onward _ _ _ _ ih =>
      obtain ⟨requests, rfl⟩ := ih
      exact ⟨_ :: requests, rfl⟩

/-- An attempt begins with its call, and requests follow. -/
theorem Attempt.called {result : Except Fault Reply}
    (attempt : Attempt transport client isOpen call world events result after) :
    ∃ requests : List Request, events = .called call.url :: requests.map .sent := by
  cases attempt with
  | unwritable => exact ⟨[], rfl⟩
  | closed => exact ⟨[], rfl⟩
  | sent _ _ hops =>
      obtain ⟨requests, rfl⟩ := hops.requests
      exact ⟨requests, rfl⟩

variable {left pauses : Nat} {result : Except Stop Reply}

/-- A call comes to its first attempt unless the caller has cancelled by then. -/
theorem Course.attempted
    (course : Course transport client isOpen call left pauses world events result after) :
    ((transport.isCancelled world).1 = true ∧ events = [] ∧
        result = .error (.cancelled .before call.url)) ∨
      ∃ later, events = .called call.url :: later := by
  cases course with
  | cancelledBefore cancelled => exact .inl ⟨by rw [cancelled], rfl, rfl⟩
  | cancelledDuring _ attempt _ | replied _ attempt _ | failed _ attempt _ | repeated _ attempt _ _ =>
      obtain ⟨requests, rfl⟩ := attempt.called
      exact .inr ⟨_, rfl⟩

/-- After a pause a call is a repetition as a whole. -/
theorem Course.logicalCalls_paused
    (course : Course transport client isOpen call left pauses world events result after)
    {rest : List Event} (calm : Calm rest ∨ ∃ reply, result = .ok reply) (seconds : Nat) :
    logicalCalls (.paused seconds :: (events ++ rest)) = logicalCalls rest := by
  induction course generalizing seconds with
  | cancelledBefore =>
      obtain calm | ⟨_, impossible⟩ := calm
      · exact calm.logicalCalls_paused seconds
      · cases impossible
  | cancelledDuring _ attempt _ | replied _ attempt _ | failed _ attempt _ =>
      obtain ⟨requests, rfl⟩ := attempt.called
      simp
  | repeated _ attempt _ _ ih =>
      obtain ⟨requests, rfl⟩ := attempt.called
      have repetition := ih calm
      simp [repetition]

/-- A call that is made at all counts once. -/
theorem Course.logicalCalls
    (course : Course transport client isOpen call left pauses world events result after)
    {rest : List Event} (calm : Calm rest ∨ ∃ reply, result = .ok reply) :
    (events = [] ∧ result = .error (.cancelled .before call.url)) ∨
      logicalCalls (events ++ rest) = call.url :: logicalCalls rest := by
  cases course with
  | cancelledBefore => exact .inl ⟨rfl, rfl⟩
  | cancelledDuring _ attempt _ | replied _ attempt _ | failed _ attempt _ =>
      obtain ⟨requests, rfl⟩ := attempt.called
      simp
  | repeated _ attempt _ again =>
      obtain ⟨requests, rfl⟩ := attempt.called
      have repetition := again.logicalCalls_paused calm
      simp [repetition]

end ImageOwnership.Http
