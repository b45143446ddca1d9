import ImageOwnership.Proofs.Http.Budget
import ImageOwnership.Proofs.Session

/-!
What a validation may cost, whatever the registry does. A list of manifests leads to a platform and a
platform to no other list, so that there are three documents at most; each of them takes one call, or
two where it needs a token, and each call is repeated only so often.
-/

namespace ImageOwnership

open Http

variable {World : Type}

/-- How many documents may be due after the one at hand. -/
def Stage.further : Stage → Nat
  | tag => 2
  | platform _ => 1
  | config _ => 0

/-- How many calls a document takes. -/
def Authorization.calls : Authorization → Nat
  | anonymous => 1
  | token _ => 2

/-- How many calls may be due at a position. -/
def Position.due (authorization : Authorization) : Position → Nat
  | .calling (.token _ stage) => authorization.calls * stage.further + 2
  | .calling (.document stage _) => authorization.calls * stage.further + 1
  | .ended _ => 0

section Due

variable {registry : Registry} {image : Image.Reference}

theorem Registry.due_entering (registry : Registry) (stage : Stage) :
    (registry.entering stage).due registry.authorization =
      registry.authorization.calls * (stage.further + 1) := by
  unfold Registry.entering
  cases registry.authorization with
  | anonymous => simp [Position.due, Authorization.calls]
  | token url => simp [Position.due, Authorization.calls, Nat.mul_add]

theorem Registry.due_settling (registry : Registry) (digest : String) :
    (registry.settling image digest).due registry.authorization ≤ registry.authorization.calls := by
  unfold Registry.settling
  split
  · exact Nat.zero_le _
  · simp [due_entering, Stage.further]

theorem Registry.due_decoding {α : Type} {stage : Stage} {decode : List UInt8 → Document.Decoded α}
    {onward : α → Position} {authorization : Authorization} {bound : Nat}
    (within : ∀ document, (onward document).due authorization ≤ bound) (body : List UInt8) :
    (Registry.decoding image stage decode onward body).due authorization ≤ bound := by
  unfold Registry.decoding
  split
  · exact Nat.zero_le _
  · exact within _

/-- Of the documents that may follow, one less is due once one has been read. -/
theorem Registry.due_reading (registry : Registry) (stage : Stage) (body : List UInt8) :
    (registry.reading image stage body).due registry.authorization ≤
      registry.authorization.calls * stage.further := by
  cases stage with
  | tag =>
      refine due_decoding (fun manifest => ?_) body
      unfold Registry.tagged
      cases manifest.platforms with
      | nil =>
          have one : (registry.settling image manifest.config).due registry.authorization ≤ _ :=
            registry.due_settling manifest.config
          exact Nat.le_trans one (Nat.le_mul_of_pos_right _ Nat.two_pos)
      | cons digest others => simp [due_entering, Stage.further]
  | platform digest =>
      refine due_decoding (fun manifest => ?_) body
      simpa [Stage.further] using registry.due_settling manifest.config
  | config digest => exact due_decoding (fun config => Nat.zero_le _) body

theorem Registry.due_receiving (registry : Registry) (purpose : Purpose) (body : List UInt8) :
    (registry.receiving image purpose body).due registry.authorization <
      (Position.calling purpose).due registry.authorization := by
  cases purpose with
  | token url stage =>
      simp only [Registry.receiving, Registry.granting]
      cases Token.read body with
      | error failure => exact Nat.succ_pos _
      | ok token => exact Nat.lt_succ_self _
  | document stage bearer => exact Nat.lt_succ_of_le (registry.due_reading stage body)

/-- However a call ends, fewer calls are due after it. -/
theorem Registry.due_after (registry : Registry) (purpose : Purpose) (ending : Except Stop Reply) :
    (registry.after image purpose ending).due registry.authorization <
      (Position.calling purpose).due registry.authorization := by
  have some : 0 < (Position.calling purpose).due registry.authorization := by
    cases purpose <;> exact Nat.succ_pos _
  unfold Registry.after
  split
  · exact some
  · exact some
  · split
    · exact registry.due_receiving purpose _
    · exact some

variable {transport : Transport World} {isOpen : Bool} {world after : World}
  {exchanges : List Exchange} {result : Except Failure Image.Labels}

theorem Conversation.length_le {position : Position}
    (conversation : Conversation transport registry image isOpen position world exchanges result
      after) :
    exchanges.length ≤ position.due registry.authorization := by
  induction conversation with
  | finished => exact Nat.zero_le _
  | @calls purpose _ _ ending _ _ _ _ _ _ ih =>
      exact Nat.lt_of_le_of_lt ih (registry.due_after purpose ending)

theorem Conversation.frugal {position : Position}
    (conversation : Conversation transport registry image isOpen position world exchanges result
      after) :
    Frugal (position.due registry.authorization * (registry.settings.retries + 1))
      (position.due registry.authorization * registry.settings.retries)
      (exchanges.flatMap Exchange.events) := by
  have each (exchange : Exchange) (member : exchange ∈ exchanges) :
      Frugal (registry.settings.retries + 1) registry.settings.retries exchange.events := by
    obtain ⟨_, _, course⟩ := conversation.coursed member
    exact course.frugal
  have few := conversation.length_le
  exact (Frugal.flatMap each).weaken (Nat.mul_le_mul_right _ few) (Nat.mul_le_mul_right _ few)

theorem Registry.frugal_opening (registry : Registry) : Frugal 0 0 registry.opening := by
  apply Frugal.free
  unfold opening
  split <;> simp

theorem Registry.frugal_closing (registry : Registry) (isOpen : Bool) :
    Frugal 0 0 (registry.closing isOpen) := by
  apply Frugal.free
  unfold closing
  split <;> simp

end Due

namespace Claim

/-- How many calls the three documents of an image take; only one origin wants a token for each. -/
def Target.calls (target : Target) : Nat :=
  if target.origin = Provider.dockerOrigin then 6 else 3

theorem Target.due_entering {claim : Claim} {target : Target} {registry : Registry}
    (made : claim.made target = .ok registry) :
    (registry.entering .tag).due registry.authorization = target.calls := by
  rw [registry.due_entering, (made_ok made).1, Authorization.forOrigin, calls]
  split <;> rfl

/-- Whatever a registry does, a validation makes three calls at most, or six where each document needs a
token. Each is repeated no more often than the settings say, after a pause of one to ten seconds, and
followed by no more requests than redirects are followed. Without a target nothing happens at all. -/
theorem validateImage_frugal (claim : Claim) (transport : Transport World)
    (environment : Settings.Environment) (run : Run World Log.Entry) :
    ∃ events,
      (Action.perform (claim.validateImage transport environment) run).2.trace = run.trace ++ events ∧
      (∀ failure, claim.target environment = .error failure → events = []) ∧
      ∀ target, claim.target environment = .ok target →
        Frugal (target.calls * (target.settings.retries + 1))
          (target.calls * target.settings.retries) events := by
  cases settled : claim.target environment with
  | error failure =>
      rw [perform_validateImage_unsettled transport settled]
      exact ⟨[], (List.append_nil _).symm, fun _ _ => rfl, nofun⟩
  | ok target =>
      cases made : claim.made target with
      | error failure =>
          rw [perform_validateImage_unmade transport settled made]
          refine ⟨[], (List.append_nil _).symm, nofun, fun _ _ => ?_⟩
          exact Frugal.nil.weaken (Nat.zero_le _) (Nat.zero_le _)
      | ok registry =>
          obtain ⟨exchanges, _, _, _, conversation, _⟩ :=
            perform_validateImage transport settled made run
          have exchanged := exchanged_of_conversation settled made conversation
          have frugal := conversation.frugal
          rw [Target.due_entering made, (made_ok made).2] at frugal
          have whole := (registry.frugal_opening.append frugal).append
            (registry.frugal_closing run.isOpen)
          simp only [Nat.zero_add, Nat.add_zero] at whole
          refine ⟨_, exchanged.trace, nofun, ?_⟩
          rintro _ ⟨⟩
          exact whole

/-- An answer that is a list of manifests, a manifest and a config at once makes all three calls due. -/
example :
    (Action.perform ((ofTag "1").validateImage Script.transport fun _ => none)
      { world := { entries := [{
          answer := .ok ⟨200, none, Utf8.encode
            ("\x7b\"manifests\":[\x7b\"digest\":\"p\"\x7d]," ++
              "\"config\":\x7b\"digest\":\"c\"\x7d\x7d").toList⟩
          times := 4 }] } }).2.trace.countP Event.isCall = 3 := by
  decide +kernel

end Claim

end ImageOwnership
