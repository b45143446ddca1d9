import ImageOwnership.Proofs.Session

/-!
Validations that have nothing between them but their settings. What they are about is settled alike, and
their registries are at the same origin with the same client.
-/

namespace ImageOwnership

open Http

def Registry.changed (change : Settings → Settings) (registry : Registry) : Registry :=
  { registry with settings := change registry.settings }

namespace Claim

def Target.changed (change : Settings → Settings) (target : Target) : Target :=
  { target with settings := change target.settings }

/-- Two claims under environments that have nothing between them but a change to the settings. -/
structure ApartInSettings (claim : Claim) (here : Settings.Environment) (settings : Settings)
    (other : Claim) (there : Settings.Environment) (change : Settings → Settings) : Prop where
  descriptor : other.descriptor = claim.descriptor
  owner : other.owner = claim.owner
  providers : other.providers = claim.providers
  client : other.client = claim.client
  given : claim.settingsIn here = .ok settings
  changed : other.settingsIn there = .ok (change settings)

namespace ApartInSettings

variable {claim other : Claim} {here there : Settings.Environment} {settings : Settings}
  {change : Settings → Settings}

theorem target (apart : ApartInSettings claim here settings other there change) :
    (∃ failure, claim.target here = .error failure ∧ other.target there = .error failure) ∨
      ∃ target : Target, target.settings = settings ∧ claim.target here = .ok target ∧
        other.target there = .ok (target.changed change) := by
  have origin : other.origin = claim.origin := by
    rw [Claim.origin, Claim.origin, apart.descriptor, apart.providers]
  have repository : other.repository = claim.repository := by
    rw [Claim.repository, Claim.repository, apart.descriptor]
  rw [Claim.target, Claim.target, apart.given, apart.changed, origin, repository, apart.descriptor]
  cases claim.origin with
  | error failure => exact .inl ⟨failure, rfl, rfl⟩
  | ok origin =>
      cases claim.repository with
      | error failure => exact .inl ⟨failure, rfl, rfl⟩
      | ok repository =>
          exact .inr ⟨⟨settings, origin, ⟨repository, claim.descriptor.version⟩⟩, rfl, rfl, rfl⟩

/-- Of the settings only the user agent and the token service count when a registry is made. -/
theorem made (apart : ApartInSettings claim here settings other there change)
    (agent : ∀ settings, (change settings).userAgent = settings.userAgent)
    (tokens : ∀ settings, (change settings).tokenUrl = settings.tokenUrl) (target : Target) :
    other.made (target.changed change) = (claim.made target).map (Registry.changed change) := by
  have authorization : Authorization.forOrigin target.origin (change target.settings) =
      Authorization.forOrigin target.origin target.settings := by
    rw [Authorization.forOrigin, Authorization.forOrigin, tokens]
  simp only [Claim.made, apart.client, Target.changed, authorization, agent]
  cases claim.client with
  | some client => rfl
  | none => cases Client.ofUserAgent target.settings.userAgent <;> rfl

theorem judgement (apart : ApartInSettings claim here settings other there change) (target : Target)
    (cancelled : Bool) (fetched : Except Failure Image.Labels) :
    other.judgement (target.changed change) cancelled fetched =
      claim.judgement target cancelled fetched := by
  cases fetched with
  | error failure => rfl
  | ok labels =>
      rw [Claim.judgement, Claim.judgement, apart.owner]
      rfl

end ApartInSettings

end Claim

end ImageOwnership
