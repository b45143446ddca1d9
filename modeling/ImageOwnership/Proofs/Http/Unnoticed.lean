import ImageOwnership.Proofs.Http.Course

/-!
Changes to requests that go unnoticed. Where the transport answers as before, and redirects lead to the
request that is changed in the same way, a call takes the same course with every request changed.
-/

namespace ImageOwnership.Http

variable {World : Type}

/-- An event with its request changed, if it is one. -/
def Event.changed (change : Request → Request) : Event → Event
  | .sent request => .sent (change request)
  | event => event

theorem Event.changed_id : Event.changed id = id := by
  funext event
  cases event <;> rfl

/-- A change to the requests of a kind that neither the transport nor any redirect notices. -/
structure Unnoticed (transport : Transport World) (kind : Request → Prop)
    (change : Request → Request) : Prop where
  url : ∀ request, (change request).url = request.url
  respond : ∀ request world, kind request →
    transport.respond (change request) world = transport.respond request world
  next : ∀ world request location,
    transport.next world (change request) location = (transport.next world request location).map change
  kept : ∀ world request location next, transport.next world request location = .ok next →
    kind request → kind next
  credentials : ∀ request, (change request).withCredentials = change request.withCredentials

theorem unnoticed_id (transport : Transport World) : Unnoticed transport (fun _ => True) id where
  url _ := rfl
  respond _ _ _ := rfl
  next world request location := by
    rw [id_eq, Except.map_id, id_eq]
  kept _ _ _ _ _ _ := trivial
  credentials request := by
    rw [id_eq, id_eq]

section Calls

variable {transport : Transport World} {kind : Request → Prop} {change : Request → Request}
  {client other : Client} {isOpen : Bool} {call : Call} {request : Request} {world after : World}
  {events : List Event}

theorem Answered.changed (unnoticed : Unnoticed transport kind change) (fits : kind request)
    {result : Except Fault Response} (answered : Answered transport request world result after) :
    Answered transport (change request) world result after := by
  have url := unnoticed.url request
  have respond := unnoticed.respond request world fits
  cases answered with
  | failed answer => exact .failed (respond.trans answer)
  | unreadable answer host => exact .unreadable (respond.trans answer) (url ▸ host)
  | delivered answer host => exact .delivered (respond.trans answer) (url ▸ host)

theorem Hops.changed (unnoticed : Unnoticed transport kind change) {left : Nat} (fits : kind request)
    {result : Except Fault Reply} (hops : Hops transport left request world events result after) :
    Hops transport left (change request) world (events.map (Event.changed change)) result after := by
  -- Each redirect of the changed request leads to the changed request that follows.
  have next {middle : World} {request : Request} {location : String} {following : Except Fault Request}
      (found : transport.next middle request location = following) :
      transport.next middle (change request) location = following.map change := by
    rw [unnoticed.next, found]
  induction hops with
  | failed answered => exact .failed (answered.changed unnoticed fits)
  | @arrived left request world response after answered stays =>
      rw [← unnoticed.url request]
      exact .arrived (answered.changed unnoticed fits) stays
  | astray answered redirected lost =>
      exact .astray (answered.changed unnoticed fits) redirected (next lost)
  | tooMany answered redirected found =>
      exact .tooMany (answered.changed unnoticed fits) redirected (next found)
  | onward answered redirected found _ ih =>
      exact .onward (answered.changed unnoticed fits) redirected (next found)
        (ih (unnoticed.kept _ _ _ _ found fits))

theorem Attempt.changed (unnoticed : Unnoticed transport kind change)
    (begins : ∀ world request, transport.request world call client = .ok request →
      kind request.withCredentials)
    (means : ∀ world,
      transport.request world call other = (transport.request world call client).map change)
    {result : Except Fault Reply}
    (attempt : Attempt transport client isOpen call world events result after) :
    Attempt transport other isOpen call world (events.map (Event.changed change)) result after := by
  have means := means world
  cases attempt with
  | unwritable written =>
      rw [written] at means
      exact .unwritable means
  | closed written shut =>
      rw [written] at means
      exact .closed means shut
  | sent written opened hops =>
      have fits := begins _ _ written
      rw [written] at means
      refine .sent means opened ?_
      rw [unnoticed.credentials]
      exact hops.changed unnoticed fits

/-- A call takes the same course when each of its requests is changed and nothing notices. -/
theorem Course.changed (unnoticed : Unnoticed transport kind change)
    (begins : ∀ world request, transport.request world call client = .ok request →
      kind request.withCredentials)
    (means : ∀ world,
      transport.request world call other = (transport.request world call client).map change)
    {left pauses : Nat} {result : Except Stop Reply}
    (course : Course transport client isOpen call left pauses world events result after) :
    Course transport other isOpen call left pauses world (events.map (Event.changed change)) result
      after := by
  induction course with
  | cancelledBefore cancelled => exact .cancelledBefore cancelled
  | cancelledDuring uncancelled attempt cancelled =>
      exact .cancelledDuring uncancelled (attempt.changed unnoticed begins means) cancelled
  | replied uncancelled attempt still =>
      exact .replied uncancelled (attempt.changed unnoticed begins means) still
  | failed uncancelled attempt final =>
      exact .failed uncancelled (attempt.changed unnoticed begins means) final
  | repeated uncancelled attempt timedOut _ ih =>
      rw [List.map_append]
      exact .repeated uncancelled (attempt.changed unnoticed begins means) timedOut ih

/-- Clients for which a call means the same request are no different to it. -/
theorem Course.sameRequest
    (means : ∀ world, transport.request world call other = transport.request world call client)
    {left pauses : Nat} {result : Except Stop Reply}
    (course : Course transport client isOpen call left pauses world events result after) :
    Course transport other isOpen call left pauses world events result after := by
  have unchanged (world : World) :
      transport.request world call other = (transport.request world call client).map id := by
    rw [means, Except.map_id, id_eq]
  have same := course.changed (unnoticed_id transport) (fun _ _ _ => trivial) unchanged
  rwa [Event.changed_id, List.map_id] at same

end Calls

end ImageOwnership.Http
