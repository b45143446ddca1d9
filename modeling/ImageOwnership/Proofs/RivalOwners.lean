import ImageOwnership.Proofs.Acceptance

/-!
What the claimed owner has to do with a validation. Nothing is sent that depends on it, and it decides
nothing but the verdict on the labels; so an image that passes for two owners has passed because of a
limited rate.
-/

namespace ImageOwnership

open Http

variable {World : Type}

namespace Claim

/-- The same claim for another owner. -/
def withOwner (claim : Claim) (owner : String) : Claim :=
  { claim with owner }

section Ways

variable (claim : Claim) (transport : Transport World) (environment : Settings.Environment)
  (run : Run World Log.Entry)

/-- The rate is limited for the manifest of the tag, and the settings forgive that. -/
def Excused : Prop :=
  ∃ target registry after,
    claim.target environment = .ok target ∧ claim.made target = .ok registry ∧
    target.settings.skipsRateLimit = true ∧
    RateLimited transport registry target.image run.isOpen run.world after

/-- The labels of an image are fetched, and nobody has cancelled once the client is closed. -/
def Judges (image : Image.Reference) (labels : Image.Labels) : Prop :=
  ∃ target registry after,
    claim.target environment = .ok target ∧ claim.made target = .ok registry ∧
    target.image = image ∧
    Labelled transport registry image run.isOpen run.world labels after ∧
    (transport.isCancelled (registry.leaving transport run.isOpen after)).1 = false

/-- How a validation ends for the claimed owner and for another one: in one failure, in one excuse, or in
the verdicts on the same labels. -/
inductive Rivals (owner : String) : Except Failure Unit → Except Failure Unit → Prop where
  | failed {failure : Failure} : Rivals owner (.error failure) (.error failure)
  | excused (excused : claim.Excused transport environment run) : Rivals owner (.ok ()) (.ok ())
  | judged {image : Image.Reference} {labels : Image.Labels}
      (judges : claim.Judges transport environment run image labels) :
      Rivals owner (verifyLabels labels claim.owner image) (verifyLabels labels owner image)

end Ways

variable {claim : Claim} {transport : Transport World} {environment : Settings.Environment}
  {run : Run World Log.Entry} {owner : String}

/-- A label is one owner, and so the labels prove no two. -/
theorem Rivals.excused_of_ok {first second : Except Failure Unit}
    (rivals : claim.Rivals transport environment run owner first second) (other : owner ≠ claim.owner)
    (passed : first = .ok ()) (also : second = .ok ()) : claim.Excused transport environment run := by
  cases rivals with
  | failed => cases passed
  | excused excused => exact excused
  | judged judges =>
      have mine := verifyLabels_eq_ok_iff.mp passed
      have theirs := verifyLabels_eq_ok_iff.mp also
      have same : claim.owner = owner := Option.some.inj (mine.symm.trans theirs)
      exact absurd same.symm other

theorem Target.conclusion_verifyLabels {target : Target} {labels : Image.Labels}
    {image : Image.Reference} :
    target.conclusion (verifyLabels labels owner image) = verifyLabels labels owner image :=
  target.conclusion_unlimited fun _ => verifyLabels_ne_rateLimited

/-- What was fetched ends alike for both owners. -/
theorem rivals_of_conversation {target : Target} {registry : Registry} {exchanges : List Exchange}
    {fetched : Except Failure Image.Labels} {world : World}
    (settled : claim.target environment = .ok target) (made : claim.made target = .ok registry)
    (conversation : Conversation transport registry target.image run.isOpen (registry.entering .tag)
      run.world exchanges fetched world) :
    claim.Rivals transport environment run owner
      (target.conclusion (claim.judgement target
        (transport.isCancelled (registry.leaving transport run.isOpen world)).1 fetched))
      (target.conclusion ((claim.withOwner owner).judgement target
        (transport.isCancelled (registry.leaving transport run.isOpen world)).1 fetched)) := by
  have comes : (registry.entering .tag).Comes transport registry target.image run.isOpen run.world
      fetched world := ⟨exchanges, conversation⟩
  cases fetched with
  | error failure =>
      simp only [judgement]
      cases concluded : target.conclusion (.error failure) with
      | error cause => exact .failed
      | ok _ =>
          obtain impossible | ⟨skips, named, limited⟩ := Target.conclusion_eq_ok_iff.mp concluded
          · cases impossible
          · cases limited
            have reached := (Position.comes_rateLimited.mp comes).2
            exact .excused ⟨target, registry, world, settled, made, skips, reached⟩
  | ok labels =>
      cases still : (transport.isCancelled (registry.leaving transport run.isOpen world)).1 with
      | true => exact .failed
      | false =>
          simp only [judgement, Bool.false_eq_true, if_false, Target.conclusion_verifyLabels]
          exact .judged ⟨target, registry, world, settled, made, rfl,
            Position.comes_labelled.mp comes, still⟩

/-- For another owner a validation makes the same requests, in the same order and with the same pauses,
and it ends in the same way up to the verdict on the labels. Two owners pass only where a limited rate is
forgiven. -/
theorem validateImage_rivals (claim : Claim) (owner : String) (transport : Transport World)
    (environment : Settings.Environment) (run : Run World Log.Entry) :
    (Action.perform ((claim.withOwner owner).validateImage transport environment) run).2.trace =
        (Action.perform (claim.validateImage transport environment) run).2.trace ∧
      (Action.perform ((claim.withOwner owner).validateImage transport environment) run).2.world =
        (Action.perform (claim.validateImage transport environment) run).2.world ∧
      claim.Rivals transport environment run owner
        (Action.perform (claim.validateImage transport environment) run).1
        (Action.perform ((claim.withOwner owner).validateImage transport environment) run).1 ∧
      (owner ≠ claim.owner →
        (Action.perform (claim.validateImage transport environment) run).1 = .ok () →
        (Action.perform ((claim.withOwner owner).validateImage transport environment) run).1 = .ok () →
        claim.Excused transport environment run) := by
  suffices alike :
      (Action.perform ((claim.withOwner owner).validateImage transport environment) run).2.trace =
          (Action.perform (claim.validateImage transport environment) run).2.trace ∧
        (Action.perform ((claim.withOwner owner).validateImage transport environment) run).2.world =
          (Action.perform (claim.validateImage transport environment) run).2.world ∧
        claim.Rivals transport environment run owner
          (Action.perform (claim.validateImage transport environment) run).1
          (Action.perform ((claim.withOwner owner).validateImage transport environment) run).1 by
    obtain ⟨trace, world, rivals⟩ := alike
    exact ⟨trace, world, rivals, rivals.excused_of_ok⟩
  cases settled : claim.target environment with
  | error failure =>
      have again : (claim.withOwner owner).target environment = .error failure := settled
      rw [perform_validateImage_unsettled transport settled,
        perform_validateImage_unsettled transport again]
      exact ⟨rfl, rfl, .failed⟩
  | ok target =>
      -- Neither the target nor the registry depends on the owner, and so one conversation tells both runs.
      have resettled : (claim.withOwner owner).target environment = .ok target := settled
      cases made : claim.made target with
      | error failure =>
          have again : (claim.withOwner owner).made target = .error failure := made
          rw [perform_validateImage_unmade transport settled made,
            perform_validateImage_unmade transport resettled again]
          exact ⟨rfl, rfl, .failed⟩
      | ok registry =>
          have remade : (claim.withOwner owner).made target = .ok registry := made
          obtain ⟨exchanges, fetched, world, notes, conversation, performed⟩ :=
            perform_validateImage transport settled made run
          obtain ⟨others, repeated⟩ :=
            perform_validateImage_of_conversation transport resettled remade conversation
          rw [performed, repeated]
          exact ⟨rfl, rfl, rivals_of_conversation settled made conversation⟩

end Claim

end ImageOwnership
