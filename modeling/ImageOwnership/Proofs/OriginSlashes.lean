import ImageOwnership.Proofs.TokenDiscipline

/-!
Slashes at the end of an origin. Requests go where they would go without them. But the origin that asks
for tokens is known for what it is only when it has none, and with them no token is asked for.
-/

namespace ImageOwnership

open Http

variable {World : Type}

namespace Provider

/-- An origin with some slashes after it. -/
def slashed (origin : String) (slashes : Nat) : String :=
  origin ++ String.ofList (List.replicate slashes '/')

@[simp] theorem toList_slashed (origin : String) (slashes : Nat) :
    (slashed origin slashes).toList = origin.toList ++ List.replicate slashes '/' := by
  simp [slashed]

@[simp] theorem slashed_zero (origin : String) : slashed origin 0 = origin := by
  apply String.toList_inj.mp
  simp

theorem slashed_ne_dockerOrigin {slashes : Nat} (some : slashes ≠ 0) (origin : String) :
    slashed origin slashes ≠ dockerOrigin := by
  intro same
  apply dockerOrigin_bare.unended
  rw [← same, toList_slashed]
  simp [List.getLast?_append, List.getLast?_replicate, some]

end Provider

namespace Registry

open Provider

@[simp] theorem withoutLastSlashes_slashed (origin : String) (slashes : Nat) :
    withoutLastSlashes (slashed origin slashes) = withoutLastSlashes origin := by
  unfold withoutLastSlashes
  rw [toList_slashed, List.reverse_append, List.reverse_replicate, List.dropWhile_append_of_pos]
  intro char member
  exact decide_eq_true (List.eq_of_mem_replicate member)

/-- What is taken from the end of a text is nothing but slashes. -/
theorem slashed_withoutLastSlashes (text : String) :
    ∃ slashes, text = slashed (withoutLastSlashes text) slashes := by
  have only : ∀ char ∈ text.toList.reverse.takeWhile (· = '/'), char = '/' := by
    intro char member
    simpa using List.mem_takeWhile_imp member
  refine ⟨(text.toList.reverse.takeWhile (· = '/')).length, ?_⟩
  apply String.toList_inj.mp
  rw [toList_slashed, withoutLastSlashes, String.toList_ofList, ← List.reverse_replicate,
    ← List.eq_replicate_of_mem only, ← List.reverse_append, List.takeWhile_append_dropWhile,
    List.reverse_reverse]

/-- The texts from which the origin that asks for tokens is left. -/
theorem withoutLastSlashes_eq_dockerOrigin_iff {text : String} :
    withoutLastSlashes text = dockerOrigin ↔ ∃ slashes, text = slashed dockerOrigin slashes := by
  constructor
  · intro left
    obtain ⟨slashes, same⟩ := slashed_withoutLastSlashes text
    exact ⟨slashes, left ▸ same⟩
  · rintro ⟨slashes, rfl⟩
    rw [withoutLastSlashes_slashed, dockerOrigin_bare.unslashed]

end Registry

namespace Authorization

open Provider

theorem forOrigin_congr {first second : String} {settings : Settings}
    (same : first = dockerOrigin ↔ second = dockerOrigin) :
    forOrigin first settings = forOrigin second settings := by
  unfold forOrigin
  simp only [same]

/-- Slashes are immaterial to every other origin. -/
theorem forOrigin_slashed {origin : String} {slashes : Nat} {settings : Settings}
    (immaterial : slashes = 0 ∨ origin ≠ dockerOrigin) :
    forOrigin (slashed origin slashes) settings = forOrigin origin settings := by
  by_cases none : slashes = 0
  · rw [none, slashed_zero]
  · have other : origin ≠ dockerOrigin := immaterial.resolve_left none
    exact forOrigin_congr (iff_of_false (slashed_ne_dockerOrigin none origin) other)

/-- The authorization is the one of the origin without its slashes, unless that origin asks for tokens and
there are slashes. -/
theorem forOrigin_withoutLastSlashes_iff {origin : String} {settings : Settings} :
    forOrigin origin settings = forOrigin (Registry.withoutLastSlashes origin) settings ↔
      ∀ slashes, slashes ≠ 0 → origin ≠ slashed dockerOrigin slashes := by
  constructor
  · rintro same slashes some rfl
    have anonymous : forOrigin (slashed dockerOrigin slashes) settings = .anonymous :=
      forOrigin_eq_anonymous_iff.mpr (slashed_ne_dockerOrigin some _)
    rw [anonymous, Registry.withoutLastSlashes_slashed, dockerOrigin_bare.unslashed, eq_comm,
      forOrigin_eq_anonymous_iff] at same
    exact same rfl
  · intro unslashed
    apply forOrigin_congr
    rw [Registry.withoutLastSlashes_eq_dockerOrigin_iff]
    constructor
    · intro docker
      exact ⟨0, by simp [docker]⟩
    · rintro ⟨slashes, same⟩
      by_cases none : slashes = 0
      · simpa [none] using same
      · exact absurd same (unslashed slashes none)

end Authorization

namespace Claim

def withProviders (table : Provider.Table) (claim : Claim) : Claim :=
  { claim with providers := table }

def Target.withOrigin (origin : String) (target : Target) : Target :=
  { target with origin }

variable {claim : Claim} {environment : Settings.Environment} {target : Target} {registry : Registry}
  {table : Provider.Table} {origin : String} {slashes : Nat}

/-- Tables that both know the address of a claim settle the same but for the origin. -/
theorem target_withProviders {other : String}
    (resolved : claim.providers.resolve claim.descriptor.registryBaseUrl = .ok origin)
    (resolvedAnew : table.resolve claim.descriptor.registryBaseUrl = .ok other) :
    (claim.withProviders table).target environment =
      (claim.target environment).map (Target.withOrigin other) := by
  have here : claim.origin = .ok origin := by
    rw [Claim.origin, resolved, Result.mapError_ok]
  have there : (claim.withProviders table).origin = .ok other := by
    rw [Claim.origin]
    exact congrArg (Except.mapError _) resolvedAnew
  have settings : (claim.withProviders table).settingsIn environment = claim.settingsIn environment :=
    rfl
  have repository : (claim.withProviders table).repository = claim.repository := rfl
  rw [Claim.target, Claim.target, here, there, settings, repository]
  cases claim.settingsIn environment with
  | error failure => rfl
  | ok settings => cases claim.repository <;> rfl

/-- A registry is the same at an origin with slashes, unless it asks for tokens without them. -/
theorem made_slashed (immaterial : slashes = 0 ∨ target.origin ≠ Provider.dockerOrigin) :
    (claim.withProviders table).made (target.withOrigin (Provider.slashed target.origin slashes)) =
      claim.made target := by
  have same (settings : Settings) (authorization : Authorization) (client : Client) (owns : Bool) :
      Registry.atOrigin (Provider.slashed target.origin slashes) settings authorization client owns =
        .atOrigin target.origin settings authorization client owns := by
    simp [Registry.atOrigin]
  simp only [made, Target.withOrigin, Authorization.forOrigin_slashed immaterial, same]
  rfl

/-- Where the same registry is made, another table makes no difference. -/
theorem validateImage_sameRegistry (transport : Transport World) (run : Run World Log.Entry)
    (settled : claim.target environment = .ok target)
    (resettled : (claim.withProviders table).target environment = .ok (target.withOrigin origin))
    (remade : (claim.withProviders table).made (target.withOrigin origin) = claim.made target) :
    ApartInNotes (Action.perform (claim.validateImage transport environment) run)
      (Action.perform ((claim.withProviders table).validateImage transport environment) run) := by
  cases made : claim.made target with
  | error failure =>
      rw [perform_validateImage_unmade transport settled made,
        perform_validateImage_unmade transport resettled (remade.trans made)]
      exact ⟨rfl, rfl, rfl⟩
  | ok registry =>
      obtain ⟨exchanges, fetched, world, notes, conversation, performed⟩ :=
        perform_validateImage transport settled made run
      obtain ⟨others, repeated⟩ := perform_validateImage_of_conversation transport resettled
        (remade.trans made) conversation
      rw [performed, repeated]
      exact ⟨rfl, rfl, rfl⟩

/-- The validations of a claim at an origin with and without slashes after it. -/
structure SlashedApart (claim : Claim) (table : Provider.Table) (origin : String) (slashes : Nat)
    (transport : Transport World) (environment : Settings.Environment) (run : Run World Log.Entry) :
    Prop where
  /-- Slashes are immaterial to any origin but the one that asks for tokens. -/
  same : slashes = 0 ∨ origin ≠ Provider.dockerOrigin →
    ApartInNotes (Action.perform (claim.validateImage transport environment) run)
      (Action.perform ((claim.withProviders table).validateImage transport environment) run)
  /-- With slashes after it that origin is asked for the documents alone. -/
  tokenless : slashes ≠ 0 → origin = Provider.dockerOrigin →
    (Action.perform ((claim.withProviders table).validateImage transport environment) run).2.trace =
        run.trace ∨
      ∃ target registry exchanges,
        (claim.withProviders table).Exchanged transport environment run target registry exchanges ∧
        registry.origin = Provider.dockerOrigin ∧
        ∀ exchange ∈ exchanges, ∃ stage, exchange.purpose = .document stage none
  /-- The authorization is the one of the origin that is asked, but for that case. -/
  agrees : ∀ target registry, (claim.withProviders table).target environment = .ok target →
    (claim.withProviders table).made target = .ok registry →
    (registry.authorization = .forOrigin registry.origin registry.settings ↔
      ∀ count, count ≠ 0 →
        Provider.slashed origin slashes ≠ Provider.slashed Provider.dockerOrigin count)

/-- Slashes after an origin are immaterial to a validation unless the origin asks for tokens: then no
token is asked for, although the documents are asked for where tokens are needed. -/
theorem validateImage_slashed (claim : Claim) (table : Provider.Table) {origin : String}
    {slashes : Nat}
    (resolved : claim.providers.resolve claim.descriptor.registryBaseUrl = .ok origin)
    (resolvedAnew : table.resolve claim.descriptor.registryBaseUrl =
      .ok (Provider.slashed origin slashes))
    (transport : Transport World) (environment : Settings.Environment) (run : Run World Log.Entry) :
    SlashedApart claim table origin slashes transport environment run := by
  have targets : (claim.withProviders table).target environment = _ :=
    target_withProviders resolved resolvedAnew
  have at_origin {target : Target} (settled : claim.target environment = .ok target) :
      target.origin = origin := by
    have again := (target_eq_ok_iff.mp settled).2.1
    rw [resolved] at again
    exact (Except.ok.inj again).symm
  refine { same := ?_, tokenless := ?_, agrees := ?_ }
  · intro immaterial
    cases settled : claim.target environment with
    | error failure =>
        rw [settled] at targets
        rw [perform_validateImage_unsettled transport settled,
          perform_validateImage_unsettled transport targets]
        exact ⟨rfl, rfl, rfl⟩
    | ok target =>
        rw [settled] at targets
        obtain rfl := at_origin settled
        exact validateImage_sameRegistry transport run settled targets (made_slashed immaterial)
  · rintro some rfl
    obtain silent | ⟨target, registry, exchanges, exchanged⟩ :=
      (claim.withProviders table).silent_or_exchanged transport environment run
    · exact .inl silent
    · have resettled := (target_eq_ok_iff.mp exchanged.settled).2.1
      have here : target.origin = Provider.slashed Provider.dockerOrigin slashes :=
        (Except.ok.inj (resolvedAnew.symm.trans resettled)).symm
      have elsewhere : target.origin ≠ Provider.dockerOrigin :=
        here ▸ Provider.slashed_ne_dockerOrigin some _
      refine .inr ⟨target, registry, exchanges, exchanged, ?_, ?_⟩
      · rw [made_origin exchanged.made, here, Registry.withoutLastSlashes_slashed,
          Provider.dockerOrigin_bare.unslashed]
      · exact fun exchange member => exchanged.unguarded elsewhere member
  · intro target registry resettled made
    have here : target.origin = Provider.slashed origin slashes :=
      (Except.ok.inj (resolvedAnew.symm.trans (target_eq_ok_iff.mp resettled).2.1)).symm
    rw [(made_ok made).1, (made_ok made).2, made_origin made, here]
    exact Authorization.forOrigin_withoutLastSlashes_iff

/-- A table in which the address of an image leads to an origin with some slashes after it. -/
def slashedTable (origin : String) (slashes : Nat) : Provider.Table :=
  { Provider.publicTable with
    origins := [("https://docker.io", Provider.slashed origin slashes)] }

def atSlashed (origin : String) (slashes : Nat) : Claim :=
  (atBase "https://docker.io").withProviders (slashedTable origin slashes)

/-- A slash after the origin that asks for tokens, and no token is asked for. -/
theorem slash_slashed :
    SlashedApart (atSlashed Provider.dockerOrigin 0) (slashedTable Provider.dockerOrigin 1)
      Provider.dockerOrigin 1 Script.transport (fun _ => none) grantingRun :=
  validateImage_slashed (atSlashed Provider.dockerOrigin 0) (slashedTable Provider.dockerOrigin 1)
    (by decide +kernel) (by decide +kernel) Script.transport (fun _ => none) grantingRun

/-- What a validation of a claim comes to at an origin with some slashes, and what it calls for that. -/
def slashedOutcome (origin : String) (slashes : Nat) (run : Run Script.World Log.Entry) :
    Except Failure Unit × List String :=
  let performed :=
    Action.perform ((atSlashed origin slashes).validateImage Script.transport fun _ => none) run
  (performed.1, logicalCalls performed.2.trace)

/-- With a slash after the origin that asks for tokens a validation goes another way than without, to
another end. -/
theorem slash_losesToken :
    (atSlashed Provider.dockerOrigin 0).providers.resolve "https://docker.io" =
        .ok Provider.dockerOrigin ∧
      (atSlashed Provider.dockerOrigin 1).providers.resolve "https://docker.io" =
        .ok (Provider.slashed Provider.dockerOrigin 1) ∧
      slashedOutcome Provider.dockerOrigin 0 grantingRun =
        (.error (.imageNotFound ⟨⟨"me", "server"⟩, "1"⟩ 404),
          ["https://auth.docker.io/token", "https://registry-1.docker.io/v2/me/server/manifests/1"]) ∧
      slashedOutcome Provider.dockerOrigin 1 grantingRun =
        (.error (.noConfigDigest ⟨⟨"me", "server"⟩, "1"⟩),
          ["https://registry-1.docker.io/v2/me/server/manifests/1"]) := by
  refine ⟨?_, ?_, ?_, ?_⟩
  · decide +kernel
  · decide +kernel
  · decide +kernel
  · decide +kernel

end Claim

end ImageOwnership
