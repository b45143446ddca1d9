import ImageOwnership.Proofs.Delay
import ImageOwnership.Proofs.Http.Exhaustion
import ImageOwnership.Proofs.Variation

/-!
What it changes that calls may be repeated more often. It matters only where a call runs out of attempts;
any other validation goes the same way, event by event.
-/

namespace ImageOwnership

open Http

variable {World : Type}

def Settings.withRetries (retries : Nat) (settings : Settings) : Settings :=
  { settings with retries }

/-- All attempts at a call time out, as many as it may be repeated and one more. -/
def Exchange.RunsOut (transport : Transport World) (registry : Registry) (image : Image.Reference)
    (isOpen : Bool) (exchange : Exchange) : Prop :=
  ∃ before fault after, exchange.ending = .error (.fault fault) ∧
    Exhausted transport registry.client isOpen (exchange.purpose.call registry image)
      registry.settings.retries 0 before exchange.events fault after

theorem Exchange.RunsOut.timedOut {transport : Transport World} {registry : Registry}
    {image : Image.Reference} {isOpen : Bool} {exchange : Exchange}
    (out : exchange.RunsOut transport registry image isOpen) :
    ∃ error, exchange.ending = .error (.fault (.request error)) ∧ error.kind.isTimeout = true := by
  obtain ⟨_, fault, _, ended, exhausted⟩ := out
  have timedOut := exhausted.course.2
  cases fault with
  | request error => exact ⟨error, ended, timedOut⟩
  | _ => cases timedOut

section Calls

variable {transport : Transport World} {registry : Registry} {image : Image.Reference}
  {isOpen : Bool} {world after : World} {exchanges : List Exchange}
  {result : Except Failure Image.Labels}

/-- Call by call, repetitions that are not needed leave a conversation as it is. -/
theorem Conversation.patient {position : Position} {more : Nat}
    (conversation : Conversation transport registry image isOpen position world exchanges result
      after)
    (enough : registry.settings.retries ≤ more)
    (spared : ∀ exchange ∈ exchanges, ¬ exchange.RunsOut transport registry image isOpen) :
    Conversation transport (registry.changed (Settings.withRetries more)) image isOpen position world
      exchanges result after := by
  -- What a call is and what its ending means does not depend on how often it may be repeated.
  induction conversation with
  | finished => exact .finished
  | @calls purpose world events ending middle exchanges result after course _ ih =>
      have rest := ih fun exchange later => spared exchange (List.mem_cons_of_mem _ later)
      refine .calls (course.patient enough ?_) rest
      intro fault exhausted
      obtain ⟨_, same, _⟩ := course.unique exhausted.course.1
      exact spared _ List.mem_cons_self ⟨world, fault, middle, same, exhausted⟩

/-- A call that runs out of attempts is the last one, and its timeout is the result. -/
theorem Conversation.ranOut {position : Position} {exchange : Exchange}
    (conversation : Conversation transport registry image isOpen position world exchanges result
      after)
    (member : exchange ∈ exchanges) (out : exchange.RunsOut transport registry image isOpen) :
    ∃ error, result = .error (exchange.purpose.failed image error) ∧
      error.kind.isTimeout = true := by
  obtain ⟨error, ended, timedOut⟩ := out.timedOut
  refine ⟨error, conversation.ended member ?_, timedOut⟩
  rw [ended]
  rfl

end Calls

theorem Purpose.requestError?_failed (image : Image.Reference) (purpose : Purpose)
    (error : RequestError) : (purpose.failed image error).requestError? = some error := by
  cases purpose with
  | token url stage => rfl
  | document stage bearer => cases stage <;> rfl

namespace Claim

/-- Some call of a validation runs out of attempts. -/
def RunsOut (claim : Claim) (transport : Transport World) (environment : Settings.Environment)
    (run : Run World Log.Entry) : Prop :=
  ∃ target registry exchanges, claim.Exchanged transport environment run target registry exchanges ∧
    ∃ exchange ∈ exchanges, exchange.RunsOut transport registry target.image run.isOpen

/-- When a call runs out of attempts the validation fails, and its failure names the last timeout. -/
theorem RunsOut.failed {claim : Claim} {transport : Transport World}
    {environment : Settings.Environment} {run : Run World Log.Entry}
    (out : claim.RunsOut transport environment run) :
    ∃ failure error,
      (Action.perform (claim.validateImage transport environment) run).1 = .error failure ∧
      failure.requestError? = some error ∧ error.kind.isTimeout = true := by
  obtain ⟨target, registry, exchanges, exchanged, exchange, member, exhausted⟩ := out
  obtain ⟨_, _, _, conversation, concluded⟩ := exchanged.concluded
  obtain ⟨error, rfl, timedOut⟩ := conversation.ranOut member exhausted
  have named := exchange.purpose.requestError?_failed target.image error
  refine ⟨_, error, ?_, named, timedOut⟩
  rw [concluded, judgement, target.conclusion_other]
  intro image limited
  rw [limited] at named
  cases named

/-- A validation in which no call runs out of attempts has the same result and the same events, in the
same order, and leaves the same world when its calls may be repeated more often. -/
theorem validateImage_patient {claim other : Claim} {here there : Settings.Environment}
    {settings : Settings} {more : Nat}
    (apart : ApartInSettings claim here settings other there (Settings.withRetries more))
    (enough : settings.retries ≤ more) (transport : Transport World) (run : Run World Log.Entry)
    (spared : ¬ claim.RunsOut transport here run) :
    ApartInNotes (Action.perform (claim.validateImage transport here) run)
      (Action.perform (other.validateImage transport there) run) := by
  obtain ⟨failure, unsettled, again⟩ | ⟨target, rfl, settled, resettled⟩ := apart.target
  · rw [perform_validateImage_unsettled transport unsettled,
      perform_validateImage_unsettled transport again]
    exact ⟨rfl, rfl, rfl⟩
  · have remade := apart.made (fun _ => rfl) (fun _ => rfl) target
    cases made : claim.made target with
    | error failure =>
        rw [made] at remade
        rw [perform_validateImage_unmade transport settled made,
          perform_validateImage_unmade transport resettled remade]
        exact ⟨rfl, rfl, rfl⟩
    | ok registry =>
        rw [made] at remade
        obtain ⟨exchanges, fetched, world, notes, conversation, performed⟩ :=
          perform_validateImage transport settled made run
        have patient := conversation.patient ((made_ok made).2 ▸ enough) fun exchange member out =>
          spared ⟨target, registry, exchanges, exchanged_of_conversation settled made conversation,
            exchange, member, out⟩
        obtain ⟨others, repeated⟩ :=
          perform_validateImage_of_conversation transport resettled remade patient
        rw [apart.judgement] at repeated
        rw [performed, repeated]
        exact ⟨rfl, rfl, rfl⟩

def ofTagMorePatient (tag : String) : Claim :=
  { ofTag tag with settings := (ofTag tag).settings.map (Settings.withRetries 3) }

/-- A run in which a timeout comes before each document. -/
def slowRun : Run Script.World Log.Entry where
  world := .ofAnswers [slowAnswer, manifestAnswer, slowAnswer, configAnswer]

/-- One repetition is enough where each answer is late once, and so three are no different. -/
theorem proven_patient :
    ¬ (ofTagPatient "1").RunsOut Script.transport (fun _ => none) slowRun ∧
      (Action.perform ((ofTagPatient "1").validateImage Script.transport fun _ => none) slowRun).1 =
        .ok () ∧
      ApartInNotes
        (Action.perform ((ofTagPatient "1").validateImage Script.transport fun _ => none) slowRun)
        (Action.perform ((ofTagMorePatient "1").validateImage Script.transport fun _ => none)
          slowRun) := by
  have proven : (Action.perform ((ofTagPatient "1").validateImage Script.transport fun _ => none)
      slowRun).1 = .ok () := by
    decide +kernel
  have spared : ¬ (ofTagPatient "1").RunsOut Script.transport (fun _ => none) slowRun := by
    intro out
    obtain ⟨_, _, failed, _⟩ := out.failed
    rw [proven] at failed
    cases failed
  have apart : ApartInSettings (ofTagPatient "1") (fun _ => none)
      ⟨.whole 10, 1, Settings.defaultUserAgent, Settings.defaultTokenUrl, true⟩
      (ofTagMorePatient "1") (fun _ => none) (Settings.withRetries 3) :=
    ⟨rfl, rfl, rfl, rfl, rfl, rfl⟩
  exact ⟨spared, proven, validateImage_patient apart (by decide) Script.transport slowRun spared⟩

end Claim

end ImageOwnership
