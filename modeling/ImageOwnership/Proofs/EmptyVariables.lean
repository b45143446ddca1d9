import ImageOwnership.Proofs.RatePolicy

/-!
Environment variables that are empty. An empty text stands for no value wherever the default is taken for
want of a text; the policy on limited rates is read from any text, and the empty one forgives nothing. So
emptying variables comes to unsetting them unless that policy is among them, and then to no more than
the policy can be told by.
-/

namespace ImageOwnership

open Http

namespace Settings

/-! ### Settings from texts that are empty -/

namespace Environment

variable {first second : Environment} {names : List Variable}

/-- The same text, or none, for some of the variables. -/
def assigned (names : List Variable) (text : Option String) (environment : Environment) : Environment :=
  fun name => if name ∈ names then text else environment name

def emptied (names : List Variable) (environment : Environment) : Environment :=
  environment.assigned names (some "")

def unset (names : List Variable) (environment : Environment) : Environment :=
  environment.assigned names none

theorem nonempty?_emptied (environment : Environment) (names : List Variable) :
    (environment.emptied names).nonempty? = (environment.unset names).nonempty? := by
  funext name
  by_cases member : name ∈ names
  · simp [nonempty?, emptied, unset, assigned, member]
  · simp [nonempty?, emptied, unset, assigned, member]

theorem skipsRateLimit_unset (environment : Environment)
    (member : Variable.skipsRateLimit ∈ names) :
    (environment.unset names).skipsRateLimit = true := by
  simp only [skipsRateLimit, unset, assigned, member, if_true]
  decide +kernel

theorem skipsRateLimit_emptied (environment : Environment)
    (member : Variable.skipsRateLimit ∈ names) :
    (environment.emptied names).skipsRateLimit = false := by
  simp only [skipsRateLimit, emptied, assigned, member, if_true]
  decide +kernel

theorem skipsRateLimit_alike (environment : Environment)
    (other : Variable.skipsRateLimit ∉ names) :
    (environment.emptied names).skipsRateLimit = (environment.unset names).skipsRateLimit := by
  simp only [skipsRateLimit, emptied, unset, assigned, other, if_false]

/-- Where two environments have the same texts but for empty ones, their drafts are apart in the policy
alone. -/
theorem draft_of_nonempty (same : first.nonempty? = second.nonempty?) :
    first.draft = second.draft.map fun draft =>
      { draft with skipsRateLimit := first.skipsRateLimit } := by
  have timeout : first.timeout = second.timeout := by simp only [Environment.timeout, same]
  have retries : first.retries = second.retries := by simp only [Environment.retries, same]
  have userAgent : first.userAgent = second.userAgent := by simp only [Environment.userAgent, same]
  have tokenUrl : first.tokenUrl = second.tokenUrl := by simp only [Environment.tokenUrl, same]
  simp only [draft, timeout, retries, userAgent, tokenUrl]
  cases second.timeout with
  | error fault => rfl
  | ok seconds =>
      cases second.retries with
      | error fault => rfl
      | ok count => rfl

end Environment

/-- The check does not look at the policy. -/
theorem Draft.check_withPolicy (skips : Bool) (draft : Draft) :
    check { draft with skipsRateLimit := skips } = draft.check.map (withPolicy skips) := by
  unfold check
  cases draft.timeout.atMostZero with
  | true => rfl
  | false =>
      by_cases negative : draft.retries < 0
      · simp only [negative]
        rfl
      simp only [negative]
      cases checkUserAgent draft.userAgent with
      | error fault => rfl
      | ok agent =>
          cases checkTokenUrl draft.tokenUrl with
          | error fault => rfl
          | ok url => rfl

section Alike

variable {first second : Environment} {settings : Settings}

/-- Where two environments have the same texts but for empty ones, their settings are apart in the policy
alone. -/
theorem ofEnvironment_of_nonempty (same : first.nonempty? = second.nonempty?) :
    ofEnvironment first = (ofEnvironment second).map (withPolicy first.skipsRateLimit) := by
  rw [ofEnvironment, ofEnvironment, Environment.draft_of_nonempty same]
  cases second.draft with
  | error fault => rfl
  | ok draft => exact draft.check_withPolicy first.skipsRateLimit

theorem skipsRateLimit_of_ofEnvironment (made : ofEnvironment first = .ok settings) :
    settings.skipsRateLimit = first.skipsRateLimit := by
  have again := ofEnvironment_of_nonempty (rfl : first.nonempty? = first.nonempty?)
  rw [made] at again
  rw [Except.ok.inj again]
  rfl

/-- Then the settings are the same exactly when the policies are, or when there are none. -/
theorem ofEnvironment_eq_iff (same : first.nonempty? = second.nonempty?) :
    ofEnvironment first = ofEnvironment second ↔
      first.skipsRateLimit = second.skipsRateLimit ∨ ∃ fault, ofEnvironment second = .error fault := by
  have here := ofEnvironment_of_nonempty same
  cases made : ofEnvironment second with
  | error fault =>
      rw [made] at here
      simp [here, Except.map]
  | ok settings =>
      rw [made] at here
      have own := skipsRateLimit_of_ofEnvironment made
      simp only [here, Except.map, Except.ok.injEq, reduceCtorEq, exists_false, or_false, ← own]
      constructor
      · intro unchanged
        rw [← unchanged]
        rfl
      · intro policy
        rw [policy]
        rfl

end Alike

end Settings

/-! ### Validations under them -/

namespace Claim

variable {World : Type} {first second : Settings.Environment}

/-- A validation looks at the environment for nothing but settings. -/
theorem validateImage_congr (same : Settings.ofEnvironment first = Settings.ofEnvironment second)
    (claim : Claim) (transport : Transport World) :
    claim.validateImage transport first = claim.validateImage transport second := by
  have settings : claim.settingsIn first = claim.settingsIn second := by
    simp only [settingsIn, same]
  simp only [validateImage, target, settings]

/-- A result in which a limited rate is forgiven. -/
def forgiven : Except Failure Unit → Except Failure Unit
  | .error (.rateLimited _) => .ok ()
  | result => result

/-- Two validations that do the same; the second one forgives a limited rate. -/
structure Forgives (strict lenient : Except Failure Unit × Run World Log.Entry) : Prop where
  result : lenient.1 = forgiven strict.1
  trace : lenient.2.trace = strict.2.trace
  world : lenient.2.world = strict.2.world

theorem Target.conclusion_lenient (target : Target) (verdict : Except Failure Unit) :
    (target.withPolicy true).conclusion verdict = forgiven verdict := by
  cases verdict with
  | ok passed => rfl
  | error failure =>
      cases failure with
      | _ => rfl

theorem forgiven_premature {failure : Failure} (premature : failure.isPremature = true) :
    forgiven (.error failure) = .error failure := by
  cases failure with
  | rateLimited => cases premature
  | _ => rfl

theorem ApartInPolicy.forgives {strict lenient : Claim}
    (apart : ApartInPolicy strict first lenient second) (transport : Transport World)
    (run : Run World Log.Entry) :
    Forgives (Action.perform (strict.validateImage transport first) run)
      (Action.perform (lenient.validateImage transport second) run) := by
  obtain ⟨failure, unsettled, again⟩ | ⟨target, settled, resettled⟩ := apart.target
  · rw [perform_validateImage_unsettled transport unsettled,
      perform_validateImage_unsettled transport again]
    exact ⟨(forgiven_premature (target_premature unsettled)).symm, rfl, rfl⟩
  have remade := apart.made target
  cases made : strict.made (target.withPolicy false) with
  | error failure =>
      rw [made] at remade
      rw [perform_validateImage_unmade transport settled made,
        perform_validateImage_unmade transport resettled remade]
      obtain ⟨_, fault, rfl, _⟩ := made_error made
      exact ⟨rfl, rfl, rfl⟩
  | ok registry =>
      rw [made] at remade
      obtain ⟨exchanges, fetched, world, notes, conversation, performed⟩ :=
        perform_validateImage transport settled made run
      obtain ⟨others, repeated⟩ := perform_validateImage_of_conversation transport resettled remade
        (conversation.withPolicy true)
      rw [performed, repeated, apart.judgement, Target.conclusion_strict, Target.conclusion_lenient]
      exact ⟨rfl, rfl, rfl⟩

end Claim

namespace Settings.Environment

variable (environment : Environment) (names : List Variable)

/-- What becomes of settings, and of validations that are not given any, when variables are emptied and not
unset. -/
structure CountsEmptied : Prop where
  settings : ofEnvironment (environment.emptied names) = ofEnvironment (environment.unset names) ↔
    .skipsRateLimit ∉ names ∨ ∃ fault, ofEnvironment (environment.unset names) = .error fault
  /-- If they are not the same they are apart in the policy, which is strict for want of a text. -/
  policy : .skipsRateLimit ∈ names →
    ∀ settings, ofEnvironment (environment.unset names) = .ok settings →
      settings.skipsRateLimit = true ∧
        ofEnvironment (environment.emptied names) = .ok (settings.withPolicy false)
  validation : ofEnvironment (environment.emptied names) = ofEnvironment (environment.unset names) →
    ∀ (claim : Claim) {World : Type} (transport : Transport World),
      claim.validateImage transport (environment.emptied names) =
        claim.validateImage transport (environment.unset names)
  limited : ofEnvironment (environment.emptied names) ≠ ofEnvironment (environment.unset names) →
    ∀ claim : Claim, claim.settings = none →
      ∀ {World : Type} (transport : Transport World) (run : Run World Log.Entry),
        Claim.Forgives
          (Action.perform (claim.validateImage transport (environment.emptied names)) run)
          (Action.perform (claim.validateImage transport (environment.unset names)) run)

variable {environment names}

theorem ofEnvironment_emptied {settings : Settings} (member : Variable.skipsRateLimit ∈ names)
    (made : ofEnvironment (environment.unset names) = .ok settings) :
    settings.skipsRateLimit = true ∧
      ofEnvironment (environment.emptied names) = .ok (settings.withPolicy false) := by
  refine ⟨?_, ?_⟩
  · rw [skipsRateLimit_of_ofEnvironment made, environment.skipsRateLimit_unset member]
  · rw [ofEnvironment_of_nonempty (environment.nonempty?_emptied names), made,
      environment.skipsRateLimit_emptied member]
    rfl

theorem ofEnvironment_emptied_eq_iff :
    ofEnvironment (environment.emptied names) = ofEnvironment (environment.unset names) ↔
      .skipsRateLimit ∉ names ∨ ∃ fault, ofEnvironment (environment.unset names) = .error fault := by
  rw [ofEnvironment_eq_iff (environment.nonempty?_emptied names)]
  by_cases member : Variable.skipsRateLimit ∈ names
  · simp [member, environment.skipsRateLimit_emptied member, environment.skipsRateLimit_unset member]
  · simp [member, environment.skipsRateLimit_alike member]

/-- Emptied variables count as unset, all but the policy. -/
theorem emptied_countsAsUnset (environment : Environment) (names : List Variable) :
    environment.CountsEmptied names where
  settings := ofEnvironment_emptied_eq_iff
  policy := fun member settings made => ofEnvironment_emptied member made
  validation := fun same claim _ transport => claim.validateImage_congr same transport
  limited := by
    intro apart claim absent World transport run
    have member : Variable.skipsRateLimit ∈ names := by
      by_contra other
      exact apart (ofEnvironment_emptied_eq_iff.mpr (.inl other))
    cases made : ofEnvironment (environment.unset names) with
    | error fault => exact absurd (ofEnvironment_emptied_eq_iff.mpr (.inr ⟨fault, made⟩)) apart
    | ok settings =>
        obtain ⟨lenient, strict⟩ := ofEnvironment_emptied member made
        have same : settings.withPolicy true = settings := by rw [withPolicy, ← lenient]
        have apartInPolicy : Claim.ApartInPolicy claim (environment.emptied names) claim
            (environment.unset names) := by
          refine ⟨rfl, rfl, rfl, rfl, settings, ?_, ?_⟩
          · simp [Claim.settingsIn, absent, strict]
          · simp [Claim.settingsIn, absent, made, same]
        exact apartInPolicy.forgives transport run

/-- An empty text for the policy is a strict one, and no text is a lenient one. -/
theorem emptyPolicy_isStrict :
    ofEnvironment (emptied [.skipsRateLimit] fun _ => none) =
        .ok ⟨defaultTimeout, 0, defaultUserAgent, defaultTokenUrl, false⟩ ∧
      ofEnvironment (unset [.skipsRateLimit] fun _ => none) =
        .ok ⟨defaultTimeout, 0, defaultUserAgent, defaultTokenUrl, true⟩ ∧
      ofEnvironment (emptied [.skipsRateLimit] fun _ => none) ≠
        ofEnvironment (unset [.skipsRateLimit] fun _ => none) := by
  decide +kernel

end Settings.Environment

end ImageOwnership
