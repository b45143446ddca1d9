import ImageOwnership.Proofs.Endings
import ImageOwnership.Proofs.Http.Replay
import ImageOwnership.Proofs.RequestPlan

/-!
Cancellations of a validation. Once the caller has cancelled no call is begun; and a caller who cancels
while a request is served or during a pause is told so, or is told how the attempt in flight failed. No
reply is judged any more.
-/

namespace ImageOwnership

open Http

variable {World : Type}

def FetchFault.judgesReply : FetchFault → Bool
  | .request _ => false
  | _ => true

def TokenFault.judgesReply : TokenFault → Bool
  | .request _ => false
  | _ => true

/-- Whether a failure speaks of what a registry replied: of a status, a body or the labels. -/
def Failure.judgesReply : Failure → Bool
  | .token fault => fault.judgesReply
  | .deepToken _ => true
  | .imageNotFound _ _ => true
  | .rateLimited _ => true
  | .manifest fault => fault.judgesReply
  | .platformManifest fault => fault.judgesReply
  | .noConfigDigest _ => true
  | .config fault => fault.judgesReply
  | .labelMissing _ _ => true
  | .labelMismatch _ _ => true
  | _ => false

theorem Failure.kind_eq_cancelled {failure : Failure} (kind : failure.kind = .cancelled) :
    (∃ moment url, failure = .stopped (.cancelled moment url)) ∨
      ∃ image, failure = .cancelled image := by
  cases failure with
  | cancelled image => exact .inr ⟨image, rfl⟩
  | stopped stop =>
      rcases stop with fault | ⟨moment, url⟩
      · cases fault with
        | host unknown => cases unknown <;> cases kind
        | _ => cases kind
      · exact .inl ⟨moment, url, rfl⟩
  | manifest fault => cases fault <;> cases kind
  | platformManifest fault => cases fault <;> cases kind
  | config fault => cases fault <;> cases kind
  | _ => cases kind

/-- What a stage makes of a fault of its call: only for the failure of a request it has words of its
own. -/
def Purpose.interruption (image : Image.Reference) (purpose : Purpose) : Fault → Failure
  | .request error => purpose.failed image error
  | fault => .stopped (.fault fault)

theorem Registry.after_fault (registry : Registry) (image : Image.Reference) (purpose : Purpose)
    (fault : Fault) :
    registry.after image purpose (.error (.fault fault)) =
      .ended (.error (purpose.interruption image fault)) := by
  cases fault <;> rfl

theorem Purpose.judgesReply_interruption (image : Image.Reference) (purpose : Purpose)
    (fault : Fault) : (purpose.interruption image fault).judgesReply = false := by
  cases fault with
  | request error =>
      cases purpose with
      | token url stage => rfl
      | document stage bearer => cases stage <;> rfl
  | _ => rfl

namespace Conversation

variable {transport : Transport World} {registry : Registry} {image : Image.Reference}
  {isOpen : Bool} {position : Position} {world after : World} {exchanges : List Exchange}
  {result : Except Failure Image.Labels}

theorem replayed (latches : transport.Latches)
    (conversation : Conversation transport registry image isOpen position world exchanges result
      after) :
    after = transport.replay world (exchanges.flatMap Exchange.events) := by
  induction conversation with
  | finished => rfl
  | calls course _ ih => rw [ih, course.replayed latches, ← Transport.replay_append, List.flatMap_cons]

theorem unbegun_of_set
    (conversation : Conversation transport registry image isOpen position world exchanges result after)
    (set : transport.IsSet world) : exchanges.flatMap Exchange.events = [] := by
  cases conversation with
  | finished => rfl
  | calls course rest =>
      obtain ⟨rfl, _, rfl⟩ := course.unbegun set
      rw [rest.finished_of_error]
      rfl

theorem winds (latches : transport.Latches)
    (conversation : Conversation transport registry image isOpen position world exchanges result
      after) :
    Winds transport world (exchanges.flatMap Exchange.events) := by
  induction conversation with
  | finished => exact still_nil.winds
  | calls course rest ih =>
      rw [List.flatMap_cons]
      have here := course.replayed latches
      subst here
      refine Winds.append latches (course.winds latches) ih ?_
      intro set
      rw [rest.unbegun_of_set set]
      exact still_nil

/-- A conversation that leaves a caller who has cancelled comes to an end by a call without a reply. -/
theorem interrupted (latches : transport.Latches) {purpose : Purpose}
    (conversation : Conversation transport registry image isOpen (.calling purpose) world exchanges
      result after)
    (set : transport.IsSet after) :
    ∃ earlier last stop, exchanges = earlier ++ [last] ∧ last.ending = .error stop ∧
      registry.after image last.purpose last.ending = .ended result := by
  generalize due : Position.calling purpose = position at conversation
  induction conversation generalizing purpose with
  | finished => cases due
  | @calls made world events ending middle exchanges result after course rest ih =>
      cases next : registry.after image made ending with
      | calling following =>
          rw [next] at rest ih
          obtain ⟨earlier, last, stop, rfl, stopped, ended⟩ := ih set rfl
          exact ⟨⟨made, events, ending⟩ :: earlier, last, stop, rfl, stopped, ended⟩
      | ended last =>
          rw [next] at rest
          cases rest
          cases ending with
          | ok reply => exact absurd set (course.unset_of_replied latches)
          | error stop => exact ⟨[], ⟨made, events, .error stop⟩, stop, rfl, rfl, next⟩

end Conversation

namespace Registry

variable {transport : Transport World} {registry : Registry} {image : Image.Reference}
  {isOpen : Bool} {world after : World} {exchanges : List Exchange}
  {fetched : Except Failure Image.Labels}

theorem still_opening (registry : Registry) : Still registry.opening := by
  unfold opening
  split <;> simp [Still]

theorem still_closing (registry : Registry) (isOpen : Bool) : Still (registry.closing isOpen) := by
  unfold closing
  split <;> simp [Still]

theorem eq_closed (registry : Registry) {event : Event} (member : event ∈ registry.closing isOpen) :
    event = .closed := by
  unfold closing at member
  split at member
  · exact List.mem_singleton.mp member
  · cases member

theorem replay_opening (registry : Registry) :
    transport.replay world registry.opening = world := by
  unfold opening
  split <;> rfl

theorem winds_whole (registry : Registry) (latches : transport.Latches)
    (conversation : Conversation transport registry image isOpen (registry.entering .tag) world
      exchanges fetched after) :
    Winds transport world
      (registry.opening ++ exchanges.flatMap Exchange.events ++ registry.closing isOpen) := by
  rw [List.append_assoc]
  refine Winds.append latches registry.still_opening.winds ?_ ?_
  · rw [replay_opening]
    exact Winds.append latches (conversation.winds latches) (registry.still_closing isOpen).winds
      fun _ => registry.still_closing isOpen
  · rw [replay_opening]
    intro set
    rw [conversation.unbegun_of_set set]
    exact registry.still_closing isOpen

/-- What is served or slept through comes before the closing of the client. -/
theorem isSet_of_served (registry : Registry) (latches : transport.Latches)
    (conversation : Conversation transport registry image isOpen (registry.entering .tag) world
      exchanges fetched after)
    {earlier later before : List Event} {event : Event}
    (split : registry.opening ++ exchanges.flatMap Exchange.events ++ registry.closing isOpen =
      earlier ++ later)
    (set : transport.IsSet (transport.replay world earlier)) (last : earlier = before ++ [event])
    (moment : (∃ request, event = .sent request) ∨ ∃ seconds, event = .paused seconds) :
    transport.IsSet after := by
  have whole : transport.replay world (registry.opening ++ exchanges.flatMap Exchange.events) =
      after := by
    rw [Transport.replay_append, replay_opening, conversation.replayed latches]
  obtain ⟨middle, rfl, closing⟩ | ⟨middle, within, _⟩ := List.append_eq_append_iff.mp split
  · obtain rfl | ⟨others, final, rfl⟩ := List.eq_nil_or_concat middle
    · rw [List.append_nil, whole] at set
      exact set
    · rw [List.concat_eq_append, ← List.append_assoc] at last
      obtain ⟨_, same⟩ := List.append_inj' last rfl
      cases same
      have inside : event ∈ registry.closing isOpen := by simp [closing]
      have closed := registry.eq_closed inside
      obtain ⟨_, rfl⟩ | ⟨_, rfl⟩ := moment
      · cases closed
      · cases closed
  · rw [← whole, within, Transport.replay_append]
    exact latches.replay set

end Registry

namespace Claim

variable {claim : Claim} {target : Target} {environment : Settings.Environment}

/-- How a validation fails once the caller has cancelled: by saying so, or by the fault of its last
attempt, in the words of the stage. -/
inductive Interrupted (claim : Claim) (transport : Transport World)
    (environment : Settings.Environment) (run : Run World Log.Entry) : Failure → Prop where
  | cancelled {failure : Failure} (kind : failure.kind = .cancelled) :
      Interrupted claim transport environment run failure
  | failed {target : Target} {registry : Registry} {earlier : List Exchange} {last : Exchange}
      {fault : Fault} {fetched : Except Failure Image.Labels} {world : World}
      (settled : claim.target environment = .ok target) (made : claim.made target = .ok registry)
      (conversation : Conversation transport registry target.image run.isOpen (registry.entering .tag)
        run.world (earlier ++ [last]) fetched world)
      (stopped : last.ending = .error (.fault fault)) :
      Interrupted claim transport environment run (last.purpose.interruption target.image fault)

theorem Interrupted.unjudged {transport : Transport World} {run : Run World Log.Entry}
    {failure : Failure} (interrupted : claim.Interrupted transport environment run failure) :
    failure.judgesReply = false := by
  cases interrupted with
  | cancelled kind =>
      obtain ⟨_, _, rfl⟩ | ⟨_, rfl⟩ := Failure.kind_eq_cancelled kind
      · rfl
      · rfl
  | failed => exact Purpose.judgesReply_interruption _ _ _

/-- What was fetched from under a caller who has cancelled is a failure, and the verdict keeps it. -/
theorem interrupted_conclusion {transport : Transport World} {run : Run World Log.Entry}
    {registry : Registry} {exchanges : List Exchange} {fetched : Except Failure Image.Labels}
    {world : World} (latches : transport.Latches) (settled : claim.target environment = .ok target)
    (made : claim.made target = .ok registry)
    (conversation : Conversation transport registry target.image run.isOpen (registry.entering .tag)
      run.world exchanges fetched world)
    (set : transport.IsSet world) (cancelled : Bool) :
    ∃ failure, target.conclusion (claim.judgement target cancelled fetched) = .error failure ∧
      claim.Interrupted transport environment run failure := by
  obtain ⟨purpose, calling⟩ := registry.entering_calling .tag
  have begun := conversation
  rw [calling] at begun
  obtain ⟨earlier, last, stop, rfl, stopped, ended⟩ := begun.interrupted latches set
  rw [stopped] at ended
  cases stop with
  | cancelled moment url =>
      cases ended
      exact ⟨_, rfl, .cancelled rfl⟩
  | fault fault =>
      rw [Registry.after_fault] at ended
      cases ended
      refine ⟨_, target.conclusion_other ?_, .failed settled made conversation stopped⟩
      intro image limited
      have unjudged := Purpose.judgesReply_interruption target.image last.purpose fault
      rw [limited] at unjudged
      cases unjudged

/-- From the moment at which the caller has cancelled a validation begins no call, and sends no request
but those of the attempt in flight. A caller who has cancelled when a request was served or a pause was
over gets a failure that says so or that tells of the last attempt, and no reply is judged. -/
theorem validateImage_interrupted {transport : Transport World} (latches : transport.Latches)
    (claim : Claim) (environment : Settings.Environment) (run : Run World Log.Entry) :
    ∃ events, (Action.perform (claim.validateImage transport environment) run).2.trace =
        run.trace ++ events ∧
      ∀ earlier later, events = earlier ++ later →
        transport.IsSet (transport.replay run.world earlier) →
        Subsides later ∧
          ∀ before event, earlier = before ++ [event] →
            ((∃ request, event = .sent request) ∨ ∃ seconds, event = .paused seconds) →
            ∃ failure,
              (Action.perform (claim.validateImage transport environment) run).1 = .error failure ∧
              claim.Interrupted transport environment run failure ∧
              failure.judgesReply = false := by
  obtain silent | ⟨target, registry, exchanges, exchanged⟩ :=
    claim.silent_or_exchanged transport environment run
  · refine ⟨[], by rw [silent, List.append_nil], ?_⟩
    intro earlier later split _
    obtain ⟨rfl, rfl⟩ := List.append_eq_nil_iff.mp split.symm
    exact ⟨still_nil.subsides, by simp⟩
  · obtain ⟨fetched, world, cancelled, conversation, result⟩ := exchanged.concluded
    refine ⟨_, exchanged.trace, ?_⟩
    intro earlier later split set
    refine ⟨registry.winds_whole latches conversation earlier later split set, ?_⟩
    intro before event last moment
    have here := registry.isSet_of_served latches conversation split set last moment
    obtain ⟨failure, concluded, interrupted⟩ :=
      interrupted_conclusion latches exchanged.settled exchanged.made conversation here cancelled
    exact ⟨failure, result.trans concluded, interrupted, interrupted.unjudged⟩

/-- A run in which the caller cancels while the first request is served. -/
def cancellingRun : Run Script.World Log.Entry where
  world := {
    entries := [{ answer := .ok ⟨200, none, []⟩, cancels := true }]
    cancelled := some false }

/-- The manifest of a tag does not count once the caller has cancelled. -/
theorem served_interrupted :
    ∃ failure,
      (Action.perform ((ofTag "1").validateImage Script.transport fun _ => none) cancellingRun).1 =
        .error failure ∧
      (ofTag "1").Interrupted Script.transport (fun _ => none) cancellingRun failure ∧
      failure.judgesReply = false := by
  obtain ⟨events, trace, stops⟩ :=
    validateImage_interrupted Script.latches (ofTag "1") (fun _ => none) cancellingRun
  have shape :
      (Action.perform ((ofTag "1").validateImage Script.transport fun _ => none)
        cancellingRun).2.trace =
      [.called "https://ghcr.io/v2/me/server/manifests/1"] ++
        [.sent ⟨⟨"https", "", "ghcr.io", none, "/v2/me/server/manifests/1", none, none⟩,
          [("accept", Registry.tagAccept), ("user-agent", Settings.defaultUserAgent),
            ("host", "ghcr.io")], .whole 10⟩] := by
    decide +kernel
  rw [trace, show cancellingRun.trace = [] from rfl, List.nil_append] at shape
  subst shape
  obtain ⟨_, moment⟩ := stops _ [] (List.append_nil _).symm (by decide +kernel)
  exact moment _ _ rfl (.inl ⟨_, rfl⟩)

end Claim

end ImageOwnership
