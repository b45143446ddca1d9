import ImageOwnership.Proofs.Acceptance
import ImageOwnership.Proofs.Cancellation

/-!
Cancellations that come last. A client that a validation made is closed by the last event of the run,
whatever the run came to. Labels that were fetched do not count any more when the caller cancels
meanwhile; a limited rate that the settings forgive still does.
-/

namespace ImageOwnership

open Http

variable {World : Type}

/-- Whether a failure is a verdict on the owner. -/
def Failure.judgesOwner : Failure → Bool
  | .labelMissing _ _ => true
  | .labelMismatch _ _ => true
  | _ => false

section Calls

variable {transport : Transport World} {registry : Registry} {image : Image.Reference}
  {isOpen : Bool} {world after : World} {exchanges : List Exchange} {failure : Failure}

theorem Stage.failure_judgesOwner (stage : Stage) (image : Image.Reference) (fault : FetchFault) :
    (stage.failure image fault).judgesOwner = false := by
  cases stage with
  | tag =>
      simp only [Stage.failure, Registry.tagFailure]
      split <;> rfl
  | platform digest => rfl
  | config digest => rfl

theorem Token.read_judgesOwner {body : List UInt8} (failed : Token.read body = .error failure) :
    failure.judgesOwner = false := by
  unfold Token.read at failed
  split at failed
  all_goals
    cases failed
    try rfl

/-- No call ends in a verdict on the owner. -/
theorem Registry.FailsAfter.judgesOwner {purpose : Purpose} {ending : Except Stop Reply}
    (fails : FailsAfter image purpose ending failure) : failure.judgesOwner = false := by
  cases fails with
  | request =>
      cases purpose with
      | token url stage => rfl
      | document stage bearer => exact stage.failure_judgesOwner image _
  | fault _ => rfl
  | cancelled => rfl
  | refused _ =>
      cases purpose with
      | token url stage => rfl
      | document stage bearer => exact stage.failure_judgesOwner image _
  | ungranted _ unreadable => exact Token.read_judgesOwner unreadable
  | malformed _ _ => exact Stage.failure_judgesOwner _ image _
  | unnamed _ _ _ _ => rfl

theorem Conversation.judgesOwner {stage : Stage}
    (conversation : Conversation transport registry image isOpen (registry.entering stage) world
      exchanges (.error failure) after) : failure.judgesOwner = false := by
  obtain ⟨earlier, last, rfl, ended⟩ := conversation.concluded_entering
  exact (Registry.after_failed ended).judgesOwner

end Calls

namespace Claim

variable {claim : Claim} {target : Target} {environment : Settings.Environment}

/-- Under a caller who has cancelled only a limited rate can still be a pass. -/
theorem conclusion_cancelled_eq_ok_iff {fetched : Except Failure Image.Labels} :
    target.conclusion (claim.judgement target true fetched) = .ok () ↔
      target.settings.skipsRateLimit = true ∧ ∃ named, fetched = .error (.rateLimited named) := by
  rw [Target.conclusion_eq_ok_iff, judgement_eq_ok_iff]
  simp only [judgement_eq_rateLimited_iff, Bool.true_eq_false, and_false, exists_false, false_or]

theorem conclusion_cancelled_judgesOwner {transport : Transport World} {registry : Registry}
    {image : Image.Reference} {isOpen : Bool} {world after : World} {exchanges : List Exchange}
    {fetched : Except Failure Image.Labels} {failure : Failure}
    (conversation : Conversation transport registry image isOpen (registry.entering .tag) world
      exchanges fetched after)
    (failed : target.conclusion (claim.judgement target true fetched) = .error failure) :
    failure.judgesOwner = false := by
  have judged : claim.judgement target true fetched = .error failure :=
    (target.conclusion_failed failed).1
  cases fetched with
  | error cause =>
      cases judged
      exact conversation.judgesOwner
  | ok labels =>
      cases judged
      rfl

/-- How a validation ends for a caller who has cancelled by the time the client is closed. -/
structure EndsCancelled (transport : Transport World) (target : Target) (registry : Registry)
    (isOpen : Bool) (before after : World) (fetched : Except Failure Image.Labels)
    (result : Except Failure Unit) : Prop where
  labelled : ∀ labels, fetched = .ok labels → result = .error (.cancelled target.image)
  kept : ∀ failure, fetched = .error failure → result = .ok () ∨ result = .error failure
  passed : result = .ok () ↔ target.settings.skipsRateLimit = true ∧
    RateLimited transport registry target.image isOpen before after
  unjudged : ∀ failure, result = .error failure → failure.judgesOwner = false

theorem endsCancelled {transport : Transport World} {registry : Registry} {isOpen : Bool}
    {world after : World} {exchanges : List Exchange} {fetched : Except Failure Image.Labels}
    (conversation : Conversation transport registry target.image isOpen (registry.entering .tag) world
      exchanges fetched after) :
    EndsCancelled transport target registry isOpen world after fetched
      (target.conclusion (claim.judgement target true fetched)) where
  labelled := by
    rintro labels rfl
    rfl
  kept := by
    rintro failure rfl
    cases concluded : target.conclusion (claim.judgement target true (.error failure)) with
    | ok _ => exact .inl rfl
    | error cause =>
        have same := (target.conclusion_failed concluded).1
        cases same
        exact .inr rfl
  passed := by
    have comes : (registry.entering .tag).Comes transport registry target.image isOpen world fetched
        after := ⟨exchanges, conversation⟩
    rw [conclusion_cancelled_eq_ok_iff, and_congr_right_iff]
    intro _
    constructor
    · rintro ⟨named, rfl⟩
      exact (Position.comes_rateLimited.mp comes).2
    · intro limited
      have reached := Position.comes_rateLimited.mpr ⟨rfl, limited⟩
      exact ⟨target.image, (comes.unique reached).1⟩
  unjudged := fun _ failed => conclusion_cancelled_judgesOwner conversation failed

/-- A validation with a client of its own closes it by its last event, if it came to make one. A caller
who has cancelled once the client is closed gets no verdict on the owner: labels that were fetched end in
a cancellation, and other failures stay what they are. Only the limited rate of the tag still passes where
the settings forgive it. -/
theorem validateImage_closing (claim : Claim) (owned : claim.client = none)
    (transport : Transport World) (environment : Settings.Environment) (run : Run World Log.Entry)
    (fresh : run.isOpen = true) :
    ((Action.perform (claim.validateImage transport environment) run).2.trace = run.trace ∧
        ∃ failure,
          (Action.perform (claim.validateImage transport environment) run).1 = .error failure) ∨
      ∃ target registry exchanges fetched world,
        claim.target environment = .ok target ∧ claim.made target = .ok registry ∧
        Conversation transport registry target.image true (registry.entering .tag) run.world exchanges
          fetched world ∧
        (Action.perform (claim.validateImage transport environment) run).2.trace =
          run.trace ++ [.opened] ++ exchanges.flatMap Exchange.events ++ [.closed] ∧
        (transport.IsSet (transport.close world) →
          EndsCancelled transport target registry true run.world world fetched
            (Action.perform (claim.validateImage transport environment) run).1) := by
  obtain ⟨failure, notes, failed⟩ | ⟨target, registry, settled, made⟩ :=
    claim.fails_or_made transport environment
  · refine .inl ?_
    rw [failed]
    exact ⟨rfl, failure, rfl⟩
  · obtain ⟨exchanges, fetched, world, notes, conversation, performed⟩ :=
      perform_validateImage transport settled made run
    -- The registry owns its client, so that it is closed before the last look for a cancellation.
    have owns : registry.ownsClient = true := made_ownsClient made owned
    have opening : registry.opening = [.opened] := by simp [Registry.opening, owns]
    have closing : registry.closing run.isOpen = [.closed] := by
      simp [Registry.closing, owns, fresh]
    have leaving : registry.leaving transport run.isOpen world = transport.close world := by
      simp [Registry.leaving, owns, fresh]
    rw [performed, leaving]
    rw [fresh] at conversation
    refine .inr ⟨target, registry, exchanges, fetched, world, settled, made, conversation, ?_, ?_⟩
    · simp [Registry.left, opening, closing]
    · intro cancelled
      rw [show (transport.isCancelled (transport.close world)).1 = true from cancelled]
      exact endsCancelled conversation

/-- A claim without a client of the caller. -/
def unaided : Claim :=
  { ofTag "1" with client := none }

/-- An attempt at a document, as the claim without a client makes it. -/
def unaidedAttempt (path accept : String) : List Event :=
  [.called ("https://ghcr.io" ++ path),
    .sent ⟨⟨"https", "", "ghcr.io", none, path, none, none⟩,
      [("accept", accept), ("user-agent", Settings.defaultUserAgent), ("host", "ghcr.io")], .whole 10⟩]

/-- The documents of an image are delivered, and the caller cancels while the client is closed. -/
def deliveringRun : Run Script.World Log.Entry where
  world := {
    entries :=
      [{ answer := .ok ⟨200, none, Utf8.encode "\x7b\"config\":\x7b\"digest\":\"c\"\x7d\x7d".toList⟩ },
        { answer := .ok ⟨200, none, Utf8.encode "\x7b\x7d".toList⟩ }]
    cancelled := some false
    cancelsOnClose := true }

/-- Labels that were fetched do not count once the caller has cancelled. -/
theorem delivered_closing :
    (Action.perform (unaided.validateImage Script.transport fun _ => none) deliveringRun).1 =
        .error (.cancelled ⟨⟨"me", "server"⟩, "1"⟩) ∧
      (Failure.cancelled ⟨⟨"me", "server"⟩, "1"⟩).judgesOwner = false := by
  have shape :
      (Action.perform (unaided.validateImage Script.transport fun _ => none) deliveringRun).2.trace =
        [.opened] ++ (unaidedAttempt "/v2/me/server/manifests/1" Registry.tagAccept ++
          unaidedAttempt "/v2/me/server/blobs/c" Registry.configAccept) ++ [.closed] := by
    decide +kernel
  have failed :
      (Action.perform (unaided.validateImage Script.transport fun _ => none) deliveringRun).1 =
        .error (.cancelled ⟨⟨"me", "server"⟩, "1"⟩) := by
    decide +kernel
  obtain ⟨silent, _⟩ | ⟨_, _, exchanges, _, world, _, _, conversation, trace, late⟩ :=
    validateImage_closing unaided rfl Script.transport (fun _ => none) deliveringRun rfl
  · rw [shape] at silent
    cases silent
  · have events : deliveringRun.trace ++ [.opened] ++ exchanges.flatMap Exchange.events = _ :=
      List.append_cancel_right (trace.symm.trans shape)
    have made := List.append_cancel_left events
    have cancelled : Script.transport.IsSet (Script.transport.close world) := by
      rw [conversation.replayed Script.latches, made]
      decide +kernel
    exact ⟨failed, (late cancelled).unjudged _ failed⟩

def limitingRun : Run Script.World Log.Entry where
  world := {
    entries := [{ answer := .ok ⟨429, none, []⟩ }]
    cancelled := some false
    cancelsOnClose := true }

/-- A limited rate passes although the caller has cancelled by the time the client is closed. -/
theorem limited_closing :
    ∃ events, (Action.perform (unaided.validateImage Script.transport fun _ => none)
          limitingRun).2.trace = events ++ [.closed] ∧
      ¬ Script.transport.IsSet (Script.transport.replay limitingRun.world events) ∧
      Script.transport.IsSet (Script.transport.replay limitingRun.world (events ++ [.closed])) ∧
      (Action.perform (unaided.validateImage Script.transport fun _ => none) limitingRun).1 =
        .ok () := by
  refine ⟨.opened :: unaidedAttempt "/v2/me/server/manifests/1" Registry.tagAccept, ?_, ?_, ?_, ?_⟩
  · decide +kernel
  · decide +kernel
  · decide +kernel
  · decide +kernel

end Claim

end ImageOwnership
