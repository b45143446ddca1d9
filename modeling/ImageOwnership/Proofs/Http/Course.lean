import ImageOwnership.Http.Retry
import ImageOwnership.Proofs.Http.Performance

/-!
The course of a call, told by rules: how one request is answered, how redirects lead on, what one attempt
at a call comes to, and how attempts follow each other. Each relation holds the events that are left
behind, the result, and the world before and after. The rules and the client agree in both directions.
-/

namespace ImageOwnership.Http

variable {World Note : Type}

/-- How one request fares: it fails, its host cannot be told, or it is answered. -/
inductive Answered (transport : Transport World) (request : Request) (world : World) :
    Except Fault Response → World → Prop where
  | failed {error : RequestError} {after : World}
      (answer : transport.respond request world = (.error error, after)) :
      Answered transport request world (.error (.request error)) after
  | unreadable {response : Response} {fault : Url.Host.Fault} {after : World}
      (answer : transport.respond request world = (.ok response, after))
      (host : request.url.checkHost = .error fault) :
      Answered transport request world (.error (.host fault)) after
  | delivered {response : Response} {after : World}
      (answer : transport.respond request world = (.ok response, after))
      (host : request.url.checkHost = .ok ()) :
      Answered transport request world (.ok response) after

/-- How a request fares with the redirects it meets. The number says how many more may be followed. -/
inductive Hops (transport : Transport World) :
    Nat → Request → World → List Event → Except Fault Reply → World → Prop where
  | failed {left request world fault after}
      (answered : Answered transport request world (.error fault) after) :
      Hops transport left request world [.sent request] (.error fault) after
  | arrived {left request world response after}
      (answered : Answered transport request world (.ok response) after)
      (stays : response.redirect? = none) :
      Hops transport left request world [.sent request] (.ok ⟨request.url, response⟩) after
  | astray {left request world response location fault after}
      (answered : Answered transport request world (.ok response) after)
      (redirected : response.redirect? = some location)
      (lost : transport.next after request location = .error fault) :
      Hops transport left request world [.sent request] (.error fault) after
  | tooMany {request world response location next after}
      (answered : Answered transport request world (.ok response) after)
      (redirected : response.redirect? = some location)
      (found : transport.next after request location = .ok next) :
      Hops transport 0 request world [.sent request] (.error (.request Redirect.tooMany)) after
  | onward {left request world response location next middle events result after}
      (answered : Answered transport request world (.ok response) middle)
      (redirected : response.redirect? = some location)
      (found : transport.next middle request location = .ok next)
      (rest : Hops transport left next middle events result after) :
      Hops transport (left + 1) request world (.sent request :: events) result after

/-- What one attempt at a call comes to. -/
inductive Attempt (transport : Transport World) (client : Client) (isOpen : Bool) (call : Call)
    (world : World) : List Event → Except Fault Reply → World → Prop where
  | unwritable {fault : Fault} (written : transport.request world call client = .error fault) :
      Attempt transport client isOpen call world [.called call.url] (.error fault) world
  | closed {request : Request} (written : transport.request world call client = .ok request)
      (shut : isOpen = false) :
      Attempt transport client isOpen call world [.called call.url] (.error .clientClosed) world
  | sent {request : Request} {events : List Event} {result : Except Fault Reply} {after : World}
      (written : transport.request world call client = .ok request) (opened : isOpen = true)
      (hops : Hops transport Redirect.limit request.withCredentials world events result after) :
      Attempt transport client isOpen call world (.called call.url :: events) result after

/-- The course of a call. The numbers say how often it may still be repeated and how many pauses have
been made. -/
inductive Course (transport : Transport World) (client : Client) (isOpen : Bool) (call : Call) :
    Nat → Nat → World → List Event → Except Stop Reply → World → Prop where
  | cancelledBefore {left pauses world after} (cancelled : transport.isCancelled world = (true, after)) :
      Course transport client isOpen call left pauses world []
        (.error (.cancelled .before call.url)) after
  | cancelledDuring {left pauses world begun events reply replied after}
      (uncancelled : transport.isCancelled world = (false, begun))
      (attempt : Attempt transport client isOpen call begun events (.ok reply) replied)
      (cancelled : transport.isCancelled replied = (true, after)) :
      Course transport client isOpen call left pauses world events
        (.error (.cancelled .during call.url)) after
  | replied {left pauses world begun events reply replied after}
      (uncancelled : transport.isCancelled world = (false, begun))
      (attempt : Attempt transport client isOpen call begun events (.ok reply) replied)
      (still : transport.isCancelled replied = (false, after)) :
      Course transport client isOpen call left pauses world events (.ok reply) after
  | failed {left pauses world begun events fault after}
      (uncancelled : transport.isCancelled world = (false, begun))
      (attempt : Attempt transport client isOpen call begun events (.error fault) after)
      (final : left = 0 ∨ Retry.isTimeout fault = false) :
      Course transport client isOpen call left pauses world events (.error (.fault fault)) after
  | repeated {left pauses world begun earlier fault middle later result after}
      (uncancelled : transport.isCancelled world = (false, begun))
      (attempt : Attempt transport client isOpen call begun earlier (.error fault) middle)
      (timedOut : Retry.isTimeout fault = true)
      (rest : Course transport client isOpen call left (pauses + 1)
        (transport.pause (Retry.delay pauses) middle) later result after) :
      Course transport client isOpen call (left + 1) pauses world
        (earlier ++ .paused (Retry.delay pauses) :: later) result after

variable {transport : Transport World}

/-! ### The client keeps to the rules -/

theorem Answered.performed {request : Request} {run : Run World Note}
    {result : Except Fault Response} {after : World}
    (answered : Answered transport request run.world result after) :
    Action.perform (Client.send transport request) run =
      (result, run.advance [.sent request] after) := by
  cases answered with
  | failed answer => simp [Client.send, answer]
  | unreadable answer host => simp [Client.send, answer, host]
  | delivered answer host => simp [Client.send, answer, host]

theorem Hops.performed {left : Nat} {request : Request} {world after : World}
    {events : List Event} {result : Except Fault Reply}
    (hops : Hops transport left request world events result after) {run : Run World Note}
    (here : run.world = world) :
    Action.perform (Client.follow transport left request) run =
      (result, run.advance events after) := by
  induction hops generalizing run with
  | failed answered =>
      subst here
      rw [Client.follow, Action.perform_bind, answered.performed]
  | arrived answered stays =>
      subst here
      rw [Client.follow, Action.perform_bind, answered.performed]
      simp [stays]
  | astray answered redirected lost =>
      subst here
      rw [Client.follow, Action.perform_bind, answered.performed]
      simp [redirected, lost]
  | tooMany answered redirected found =>
      subst here
      rw [Client.follow, Action.perform_bind, answered.performed]
      simp [redirected, found]
  | onward answered redirected found rest ih =>
      subst here
      rw [Client.follow, Action.perform_bind, answered.performed]
      simp only [redirected, found, Action.perform_bind, Action.perform_get, Run.advance_world,
        Action.perform_ofExcept]
      rw [ih rfl]
      simp

theorem Attempt.performed {client : Client} {isOpen : Bool} {call : Call} {world after : World}
    {events : List Event} {result : Except Fault Reply}
    (attempt : Attempt transport client isOpen call world events result after)
    {run : Run World Note} (here : run.world = world) (state : run.isOpen = isOpen) :
    Action.perform (client.get transport call) run = (result, run.advance events after) := by
  subst here state
  cases attempt with
  | unwritable written => simp [Client.get, written]
  | closed written shut => simp [Client.get, written, shut]
  | sent written opened hops =>
      simp only [Client.get, Action.perform_bind, Action.perform_record, Action.perform_ofExcept,
        Action.perform_get, Run.advance_world, written, Run.advance_isOpen, opened, if_true]
      rw [hops.performed (Run.advance_world _ _ _)]
      simp

theorem Course.performed {client : Client} {isOpen : Bool} {call : Call} {left pauses : Nat}
    {world after : World} {events : List Event} {result : Except Stop Reply}
    (course : Course transport client isOpen call left pauses world events result after)
    {run : Run World Note} (here : run.world = world) (state : run.isOpen = isOpen) :
    Action.perform (Retry.attempts transport client call left pauses) run =
      (result, run.advance events after) := by
  induction course generalizing run with
  | cancelledBefore cancelled =>
      subst here
      rw [Retry.attempts]
      simp [Retry.checkCancelled, cancelled]
  | @cancelledDuring left pauses world begun events reply replied after uncancelled attempt cancelled =>
      subst here
      have performed := attempt.performed (Run.advance_world run [] begun) state
      rw [Retry.attempts]
      simp [Retry.checkCancelled, uncancelled, performed, cancelled]
  | @replied left pauses world begun events reply replied after uncancelled attempt still =>
      subst here
      have performed := attempt.performed (Run.advance_world run [] begun) state
      rw [Retry.attempts]
      simp [Retry.checkCancelled, uncancelled, performed, still]
  | @failed left pauses world begun events fault after uncancelled attempt final =>
      subst here
      have performed := attempt.performed (Run.advance_world run [] begun) state
      rw [Retry.attempts]
      cases left with
      | zero => simp [Retry.checkCancelled, uncancelled, performed]
      | succ left =>
          have lasting : Retry.isTimeout fault = false := final.resolve_left (Nat.succ_ne_zero left)
          simp [Retry.checkCancelled, uncancelled, performed, lasting]
  | @repeated left pauses world begun earlier fault middle later result after uncancelled attempt
      timedOut rest ih =>
      subst here
      have performed := attempt.performed (Run.advance_world run [] begun) state
      rw [Retry.attempts]
      simp only [Retry.checkCancelled, Action.perform_bind, Action.perform_isCancelled, uncancelled,
        Bool.false_eq_true, if_false, Action.perform_pure, Action.perform_outcome, performed, timedOut,
        if_true, Action.perform_pause, Run.advance_world, Run.advance_advance]
      rw [ih (Run.advance_world _ _ _) state]
      simp

/-! ### Whatever happens, the rules tell it -/

theorem Answered.exists (transport : Transport World) (request : Request) (world : World) :
    ∃ result after, Answered transport request world result after := by
  rcases answer : transport.respond request world with ⟨error | response, after⟩
  · exact ⟨_, _, .failed answer⟩
  · cases host : request.url.checkHost with
    | error fault => exact ⟨_, _, .unreadable answer host⟩
    | ok _ => exact ⟨_, _, .delivered answer host⟩

/-- A request comes to an end by itself, or it is redirected to where another one can follow. -/
theorem Hops.settled_or_redirected (transport : Transport World) (request : Request) (world : World) :
    (∃ events result after, ∀ left, Hops transport left request world events result after) ∨
      ∃ response location next middle, Answered transport request world (.ok response) middle ∧
        response.redirect? = some location ∧ transport.next middle request location = .ok next := by
  obtain ⟨result, after, answered⟩ := Answered.exists transport request world
  cases result with
  | error fault => exact .inl ⟨_, _, _, fun _ => .failed answered⟩
  | ok response =>
      cases redirected : response.redirect? with
      | none => exact .inl ⟨_, _, _, fun _ => .arrived answered redirected⟩
      | some location =>
          cases found : transport.next after request location with
          | error fault => exact .inl ⟨_, _, _, fun _ => .astray answered redirected found⟩
          | ok next => exact .inr ⟨response, location, next, after, answered, redirected, found⟩

theorem Hops.exists (transport : Transport World) (left : Nat) (request : Request) (world : World) :
    ∃ events result after, Hops transport left request world events result after := by
  induction left generalizing request world with
  | zero =>
      obtain ⟨events, result, after, settled⟩ | ⟨_, _, _, _, answered, redirected, found⟩ :=
        Hops.settled_or_redirected transport request world
      · exact ⟨events, result, after, settled 0⟩
      · exact ⟨_, _, _, .tooMany answered redirected found⟩
  | succ left ih =>
      obtain ⟨events, result, after, settled⟩ | ⟨_, _, next, middle, answered, redirected, found⟩ :=
        Hops.settled_or_redirected transport request world
      · exact ⟨events, result, after, settled (left + 1)⟩
      · obtain ⟨events, result, after, rest⟩ := ih next middle
        exact ⟨_, _, _, .onward answered redirected found rest⟩

theorem Attempt.exists (transport : Transport World) (client : Client) (isOpen : Bool) (call : Call)
    (world : World) :
    ∃ events result after, Attempt transport client isOpen call world events result after := by
  cases written : transport.request world call client with
  | error fault => exact ⟨_, _, _, .unwritable written⟩
  | ok request =>
      cases state : isOpen with
      | false => exact ⟨_, _, _, .closed written rfl⟩
      | true =>
          obtain ⟨events, result, after, hops⟩ :=
            Hops.exists transport Redirect.limit request.withCredentials world
          exact ⟨_, _, _, .sent written rfl hops⟩

/-- A call comes to an end with its next attempt, or that attempt times out. -/
theorem Course.settled_or_timedOut (transport : Transport World) (client : Client) (isOpen : Bool)
    (call : Call) (world : World) :
    (∃ events result after, ∀ left pauses,
        Course transport client isOpen call left pauses world events result after) ∨
      ∃ begun events fault middle, transport.isCancelled world = (false, begun) ∧
        Attempt transport client isOpen call begun events (.error fault) middle ∧
        Retry.isTimeout fault = true := by
  rcases cancelled : transport.isCancelled world with ⟨_ | _, begun⟩
  · obtain ⟨events, result, after, attempt⟩ := Attempt.exists transport client isOpen call begun
    cases result with
    | error fault =>
        cases timedOut : Retry.isTimeout fault with
        | false => exact .inl ⟨_, _, _, fun _ _ => .failed cancelled attempt (.inr timedOut)⟩
        | true => exact .inr ⟨begun, events, fault, after, rfl, attempt, timedOut⟩
    | ok reply =>
        rcases later : transport.isCancelled after with ⟨_ | _, final⟩
        · exact .inl ⟨_, _, _, fun _ _ => .replied cancelled attempt later⟩
        · exact .inl ⟨_, _, _, fun _ _ => .cancelledDuring cancelled attempt later⟩
  · exact .inl ⟨_, _, _, fun _ _ => .cancelledBefore cancelled⟩

theorem Course.exists (transport : Transport World) (client : Client) (isOpen : Bool) (call : Call)
    (left pauses : Nat) (world : World) :
    ∃ events result after,
      Course transport client isOpen call left pauses world events result after := by
  induction left generalizing pauses world with
  | zero =>
      obtain ⟨events, result, after, settled⟩ | ⟨_, _, _, _, uncancelled, attempt, _⟩ :=
        Course.settled_or_timedOut transport client isOpen call world
      · exact ⟨events, result, after, settled 0 pauses⟩
      · exact ⟨_, _, _, .failed uncancelled attempt (.inl rfl)⟩
  | succ left ih =>
      obtain ⟨events, result, after, settled⟩ | ⟨_, _, _, middle, uncancelled, attempt, timedOut⟩ :=
        Course.settled_or_timedOut transport client isOpen call world
      · exact ⟨events, result, after, settled (left + 1) pauses⟩
      · obtain ⟨_, _, _, rest⟩ := ih (pauses + 1) (transport.pause (Retry.delay pauses) middle)
        exact ⟨_, _, _, .repeated uncancelled attempt timedOut rest⟩

/-- The client does one thing only, and so a call has one course. -/
theorem Course.unique {client : Client} {isOpen : Bool} {call : Call} {left pauses : Nat}
    {world after final : World} {events others : List Event} {result other : Except Stop Reply}
    (course : Course transport client isOpen call left pauses world events result after)
    (second : Course transport client isOpen call left pauses world others other final) :
    events = others ∧ result = other ∧ after = final := by
  let run : Run World Unit := { world, isOpen }
  have performed : Action.perform (Retry.attempts transport client call left pauses) run =
      (result, run.advance events after) := course.performed rfl rfl
  have same := performed.symm.trans (second.performed rfl rfl)
  simp only [Run.advance, Prod.mk.injEq, Run.mk.injEq, run, List.nil_append, and_true,
    true_and] at same
  exact ⟨same.2.2, same.1, same.2.1⟩

/-! ### What holds of every request -/

section Invariant

variable {client : Client} {isOpen : Bool} {call : Call} {world after : World} {events : List Event}
  {holds : Request → Prop} {sent : Request}

theorem Hops.invariant {left : Nat} {request : Request} {result : Except Fault Reply}
    (kept : ∀ world request location next, transport.next world request location = .ok next →
      holds request → holds next)
    (hops : Hops transport left request world events result after) (first : holds request)
    (member : .sent sent ∈ events) : holds sent := by
  induction hops with
  | failed =>
      cases List.mem_singleton.mp member
      exact first
  | arrived =>
      cases List.mem_singleton.mp member
      exact first
  | astray =>
      cases List.mem_singleton.mp member
      exact first
  | tooMany =>
      cases List.mem_singleton.mp member
      exact first
  | onward _ _ found _ ih =>
      cases member with
      | head => exact first
      | tail _ later => exact ih (kept _ _ _ _ found first) later

theorem Attempt.invariant {result : Except Fault Reply}
    (kept : ∀ world request location next, transport.next world request location = .ok next →
      holds request → holds next)
    (begins : ∀ world request, transport.request world call client = .ok request →
      holds request.withCredentials)
    (attempt : Attempt transport client isOpen call world events result after)
    (member : .sent sent ∈ events) : holds sent := by
  cases attempt with
  | unwritable => cases List.mem_singleton.mp member
  | closed => cases List.mem_singleton.mp member
  | sent written _ hops =>
      cases member with
      | tail _ later => exact hops.invariant kept (begins _ _ written) later

/-- What holds of the request that a call begins with, and is kept by each redirect, holds of every
request of the call. -/
theorem Course.invariant (holds : Request → Prop) {left pauses : Nat} {result : Except Stop Reply}
    (kept : ∀ world request location next, transport.next world request location = .ok next →
      holds request → holds next)
    (begins : ∀ world request, transport.request world call client = .ok request →
      holds request.withCredentials)
    (course : Course transport client isOpen call left pauses world events result after)
    (member : .sent sent ∈ events) : holds sent := by
  induction course with
  | cancelledBefore => cases member
  | cancelledDuring _ attempt _ => exact attempt.invariant kept begins member
  | replied _ attempt _ => exact attempt.invariant kept begins member
  | failed _ attempt _ => exact attempt.invariant kept begins member
  | repeated _ attempt _ _ ih =>
      obtain first | later := List.mem_append.mp member
      · exact attempt.invariant kept begins first
      · cases later with
        | tail _ again => exact ih again

end Invariant

end ImageOwnership.Http
