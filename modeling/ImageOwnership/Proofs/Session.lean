import ImageOwnership.Http.Script
import ImageOwnership.Ownership
import ImageOwnership.Proofs.Conversation

/-!
A validation as a whole: the client is made, the conversation with the registry is held, the client is
closed, and the verdict follows from what the conversation came to.
-/

namespace ImageOwnership

open Http

variable {World : Type}

namespace Registry

/-- The events before the first call. -/
def opening (registry : Registry) : List Event :=
  if registry.ownsClient then [.opened] else []

def closing (registry : Registry) (isOpen : Bool) : List Event :=
  if registry.ownsClient && isOpen then [.closed] else []

/-- The world once the client is closed, if it is to be closed. -/
def leaving (transport : Transport World) (registry : Registry) (isOpen : Bool) (world : World) :
    World :=
  if registry.ownsClient && isOpen then transport.close world else world

/-- The run once the client is closed, if it is to be closed. -/
def left (transport : Transport World) (registry : Registry) (run : Run World Log.Entry) :
    Run World Log.Entry :=
  { run.advance (registry.closing run.isOpen) (registry.leaving transport run.isOpen run.world) with
    isOpen := run.isOpen && !registry.ownsClient }

@[simp] theorem left_noting (transport : Transport World) (registry : Registry)
    (run : Run World Log.Entry) (notes : List Log.Entry) :
    registry.left transport (run.noting notes) = (registry.left transport run).noting notes := rfl

/-- The run after the last look for a cancellation, which only labels give a reason for. -/
def looked (transport : Transport World) (fetched : Except Failure Image.Labels)
    (run : Run World Log.Entry) : Run World Log.Entry :=
  match fetched with
  | .error _ => run
  | .ok _ => run.advance [] (transport.isCancelled run.world).2

@[simp] theorem looked_noting (transport : Transport World)
    (fetched : Except Failure Image.Labels) (run : Run World Log.Entry) (notes : List Log.Entry) :
    looked transport fetched (run.noting notes) = (looked transport fetched run).noting notes := by
  cases fetched with
  | error failure => rfl
  | ok labels => rfl

@[simp] theorem looked_trace (transport : Transport World)
    (fetched : Except Failure Image.Labels) (run : Run World Log.Entry) :
    (looked transport fetched run).trace = run.trace := by
  cases fetched with
  | error failure => rfl
  | ok labels => simp [looked]

@[simp] theorem looked_isOpen (transport : Transport World)
    (fetched : Except Failure Image.Labels) (run : Run World Log.Entry) :
    (looked transport fetched run).isOpen = run.isOpen := by
  cases fetched with
  | error failure => rfl
  | ok labels => simp [looked]

theorem perform_close (transport : Transport World) (registry : Registry)
    (run : Run World Log.Entry) :
    Action.perform (registry.close transport) run = (.ok (), registry.left transport run) := by
  obtain ⟨world, isOpen, trace, notes⟩ := run
  cases owns : registry.ownsClient <;> cases isOpen <;>
    simp [Registry.close, left, closing, leaving, owns, Run.advance, Except.map]

end Registry

/-- Whether a failure is one of the inputs, of which no registry has heard yet. -/
def Failure.isPremature : Failure → Bool
  | .file _ => true
  | .descriptor _ => true
  | .settings _ => true
  | .registryType _ => true
  | .baseUrl _ => true
  | .identifier _ => true
  | .userAgent _ => true
  | _ => false

namespace Claim

variable (claim : Claim) (target : Target)

/-- The registry of a validation, unless no client can be made for it. -/
def made : Except Failure Registry :=
  let authorization := Authorization.forOrigin target.origin target.settings
  match claim.client with
  | some client =>
      .ok (.atOrigin target.origin target.settings authorization client false)
  | none =>
      ((Client.ofUserAgent target.settings.userAgent).mapError .userAgent).map fun client =>
        .atOrigin target.origin target.settings authorization client true

def judgement (cancelled : Bool) : Except Failure Image.Labels → Except Failure Unit
  | .error failure => .error failure
  | .ok labels =>
      if cancelled then .error (.cancelled target.image)
      else verifyLabels labels claim.owner target.image

/-- What a verdict means under the settings. -/
def Target.conclusion : Except Failure Unit → Except Failure Unit
  | .error (.rateLimited image) =>
      if target.settings.skipsRateLimit then .ok () else .error (.rateLimited image)
  | verdict => verdict

theorem perform_registry (run : Run World Log.Entry) :
    Action.perform (claim.registry target) run =
      match claim.made target with
      | .error failure => (.error failure, run)
      | .ok registry => (.ok registry, run.advance registry.opening run.world) := by
  unfold registry made
  cases claim.client with
  | some client => simp [Registry.opening, Registry.atOrigin, Run.advance_nothing]
  | none =>
      cases Client.ofUserAgent target.settings.userAgent <;>
        simp [Registry.opening, Registry.atOrigin, Except.map]

theorem Target.conclusion_unlimited {verdict : Except Failure Unit}
    (unlimited : ∀ image, verdict ≠ .error (.rateLimited image)) :
    target.conclusion verdict = verdict := by
  unfold conclusion
  split
  · exact absurd rfl (unlimited _)
  · rfl

theorem Target.conclusion_other {failure : Failure} (other : ∀ image, failure ≠ .rateLimited image) :
    target.conclusion (.error failure) = .error failure :=
  target.conclusion_unlimited fun image limited => other image (Except.error.inj limited)

theorem conclude_other {failure : Failure} (other : ∀ image, failure ≠ .rateLimited image) :
    (conclude target failure : Registry.Action World Unit) =
      (do
        if failure.isClassified then
          Action.note (.failed target.image failure)
        throw failure) := by
  cases failure with
  | rateLimited image => exact absurd rfl (other image)
  | _ => rfl

/-- Under the settings a failure may be forgiven; the run gets no more than a note. -/
theorem perform_conclude (failure : Failure) (run : Run World Log.Entry) :
    ∃ notes, Action.perform (conclude target failure) run =
      (target.conclusion (.error failure), run.noting notes) := by
  by_cases limited : ∃ image, failure = .rateLimited image
  · obtain ⟨image, rfl⟩ := limited
    by_cases skips : target.settings.skipsRateLimit = true
    · exact ⟨[.skipped target.image], by simp [conclude, Target.conclusion, skips]⟩
    · exact ⟨[], by simp [conclude, Target.conclusion, skips, Run.noting_nothing]⟩
  · have other : ∀ image, failure ≠ .rateLimited image := fun image same => limited ⟨image, same⟩
    rw [conclude_other target other, target.conclusion_other other]
    by_cases classified : failure.isClassified = true
    · exact ⟨[.failed target.image failure], by simp [classified]⟩
    · exact ⟨[], by simp [classified, Run.noting_nothing]⟩

theorem perform_fetchLabels (transport : Transport World) (registry : Registry)
    (image : Image.Reference) (run : Run World Log.Entry) :
    ∃ exchanges fetched world notes,
      Conversation transport registry image run.isOpen (registry.entering .tag) run.world
        exchanges fetched world ∧
      Action.perform (fetchLabels transport registry image) run =
        (fetched, (registry.left transport
          (run.advance (exchanges.flatMap Exchange.events) world)).noting notes) := by
  have told : (registry.entering .tag).Tells transport registry image _ := Position.tells_labels
  obtain ⟨exchanges, fetched, world, notes, conversation, performed⟩ := told run
  refine ⟨exchanges, fetched, world, notes, conversation, ?_⟩
  rw [fetchLabels, Action.perform_bind, Action.perform_outcome, performed]
  simp [Registry.perform_close]

variable {claim target} {environment : Settings.Environment} {registry : Registry}

theorem repository_eq_ok_iff {repository : Image.Repository} :
    claim.repository = .ok repository ↔
      Image.Repository.ofIdentifier? claim.descriptor.identifier = some repository := by
  unfold Claim.repository
  cases Image.Repository.ofIdentifier? claim.descriptor.identifier with
  | none => simp
  | some found => simp

theorem target_eq_ok_iff :
    claim.target environment = .ok target ↔
      claim.settingsIn environment = .ok target.settings ∧
      claim.providers.resolve claim.descriptor.registryBaseUrl = .ok target.origin ∧
      Image.Repository.ofIdentifier? claim.descriptor.identifier = some target.image.repository ∧
      claim.descriptor.version = target.image.tag := by
  obtain ⟨settings, origin, repository, tag⟩ := target
  simp only [Claim.target, Result.bind_eq_ok, Claim.origin, Result.mapError_eq_ok, pure, Except.pure,
    Except.ok.injEq, Target.mk.injEq, Image.Reference.mk.injEq]
  constructor
  · intro settled
    obtain ⟨_, given, _, resolved, _, found, rfl, rfl, rfl, rfl⟩ := settled
    exact ⟨given, resolved, repository_eq_ok_iff.mp found, rfl⟩
  · intro parts
    obtain ⟨given, resolved, found, rfl⟩ := parts
    exact ⟨settings, given, origin, resolved, repository, repository_eq_ok_iff.mpr found, rfl, rfl, rfl,
      rfl⟩

/-- A target is missed for want of settings, of an origin or of a repository, in this order. -/
theorem target_failed {failure : Failure} (unsettled : claim.target environment = .error failure) :
    (claim.settingsIn environment = .error failure ∧ ∃ fault, failure = .settings fault) ∨
      ∃ settings, claim.settingsIn environment = .ok settings ∧
        ((∃ fault, failure = .baseUrl fault) ∨ failure = .identifier claim.descriptor.identifier) := by
  obtain unset | ⟨settings, given, unsettled⟩ := Result.bind_eq_error.mp unsettled
  · refine .inl ⟨unset, ?_⟩
    unfold settingsIn at unset
    split at unset
    · cases unset
    · obtain ⟨fault, _, rfl⟩ := Result.mapError_eq_error.mp unset
      exact ⟨fault, rfl⟩
  · refine .inr ⟨settings, given, ?_⟩
    obtain unresolved | ⟨origin, _, unsettled⟩ := Result.bind_eq_error.mp unsettled
    · obtain ⟨fault, _, rfl⟩ := Result.mapError_eq_error.mp unresolved
      exact .inl ⟨fault, rfl⟩
    · obtain unnamed | ⟨repository, _, settled⟩ := Result.bind_eq_error.mp unsettled
      · unfold repository at unnamed
        split at unnamed
        · cases unnamed
        · cases unnamed
          exact .inr rfl
      · cases settled

theorem target_premature {failure : Failure} (unsettled : claim.target environment = .error failure) :
    failure.isPremature = true := by
  obtain ⟨_, _, rfl⟩ | ⟨_, _, ⟨_, rfl⟩ | rfl⟩ := target_failed unsettled
  · rfl
  · rfl
  · rfl

/-- Without a target nothing is asked for and nothing is noted. -/
theorem perform_validateImage_unsettled (transport : Transport World) {failure : Failure}
    (unsettled : claim.target environment = .error failure) (run : Run World Log.Entry) :
    Action.perform (claim.validateImage transport environment) run = (.error failure, run) := by
  rw [validateImage, Action.perform_bind, unsettled]
  rfl

theorem made_error {failure : Failure} (unmade : claim.made target = .error failure) :
    claim.client = none ∧ ∃ fault, failure = .userAgent fault ∧
      Client.ofUserAgent target.settings.userAgent = .error fault := by
  unfold made at unmade
  cases given : claim.client with
  | some client =>
      rw [given] at unmade
      cases unmade
  | none =>
      rw [given] at unmade
      cases written : Client.ofUserAgent target.settings.userAgent with
      | ok client =>
          rw [written] at unmade
          cases unmade
      | error fault =>
          rw [written] at unmade
          cases unmade
          exact ⟨rfl, fault, rfl, rfl⟩

/-- A registry is made at the origin of the target, with the client of the caller or a new one. -/
theorem made_atOrigin (made : claim.made target = .ok registry) :
    ∃ client ownsClient,
      registry = .atOrigin target.origin target.settings
        (.forOrigin target.origin target.settings) client ownsClient ∧
      (claim.client = some client ∨
        claim.client = none ∧ Client.ofUserAgent target.settings.userAgent = .ok client) := by
  unfold Claim.made at made
  cases given : claim.client with
  | some client =>
      rw [given] at made
      cases made
      exact ⟨client, false, rfl, .inl rfl⟩
  | none =>
      rw [given] at made
      cases written : Client.ofUserAgent target.settings.userAgent with
      | ok client =>
          rw [written] at made
          cases made
          exact ⟨client, true, rfl, .inr ⟨rfl, rfl⟩⟩
      | error fault =>
          rw [written] at made
          cases made

theorem made_ownsClient (made : claim.made target = .ok registry) (owned : claim.client = none) :
    registry.ownsClient = true := by
  unfold Claim.made at made
  rw [owned] at made
  cases written : Client.ofUserAgent target.settings.userAgent with
  | ok client =>
      rw [written] at made
      cases made
      rfl
  | error fault =>
      rw [written] at made
      cases made

theorem made_ok (made : claim.made target = .ok registry) :
    registry.authorization = .forOrigin target.origin target.settings ∧
      registry.settings = target.settings := by
  obtain ⟨_, _, rfl, _⟩ := made_atOrigin made
  exact ⟨rfl, rfl⟩

theorem made_origin (made : claim.made target = .ok registry) :
    registry.origin = Registry.withoutLastSlashes target.origin := by
  obtain ⟨_, _, rfl, _⟩ := made_atOrigin made
  rfl

theorem perform_validateImage_unmade (transport : Transport World) {failure : Failure}
    (settled : claim.target environment = .ok target) (unmade : claim.made target = .error failure)
    (run : Run World Log.Entry) :
    Action.perform (claim.validateImage transport environment) run =
      (.error failure, run.noting [.validating target.image target.origin claim.owner]) := by
  obtain ⟨_, fault, rfl, _⟩ := made_error unmade
  rw [validateImage, Action.perform_bind, settled]
  simp only [Action.perform_ofExcept, Action.perform_bind, Action.perform_note,
    Action.perform_outcome, judge, perform_registry, unmade]
  rfl

/-- Short of a registry a validation fails, whatever the run, and leaves notes at most. -/
theorem fails_or_made (claim : Claim) (transport : Transport World)
    (environment : Settings.Environment) :
    (∃ failure notes, ∀ run, Action.perform (claim.validateImage transport environment) run =
        (.error failure, run.noting notes)) ∨
      ∃ target registry, claim.target environment = .ok target ∧ claim.made target = .ok registry := by
  cases settled : claim.target environment with
  | error failure =>
      refine .inl ⟨failure, [], ?_⟩
      intro run
      rw [perform_validateImage_unsettled transport settled, Run.noting_nothing]
  | ok target =>
      cases made : claim.made target with
      | error failure =>
          exact .inl ⟨failure, _, fun run => perform_validateImage_unmade transport settled made run⟩
      | ok registry => exact .inr ⟨target, registry, rfl, made⟩

theorem perform_judge (transport : Transport World) (made : claim.made target = .ok registry)
    (run : Run World Log.Entry) :
    ∃ exchanges fetched world notes,
      Conversation transport registry target.image run.isOpen (registry.entering .tag) run.world
        exchanges fetched world ∧
      Action.perform (claim.judge transport target) run =
        (claim.judgement target
            (transport.isCancelled (registry.leaving transport run.isOpen world)).1 fetched,
          (Registry.looked transport fetched (registry.left transport (run.advance
            (registry.opening ++ exchanges.flatMap Exchange.events) world))).noting notes) := by
  obtain ⟨exchanges, fetched, world, notes, conversation, performed⟩ :=
    perform_fetchLabels transport registry target.image (run.advance registry.opening run.world)
  refine ⟨exchanges, fetched, world, notes, conversation, ?_⟩
  rw [judge, Action.perform_bind, perform_registry, made]
  simp only
  rw [Action.perform_bind, performed]
  cases fetched with
  | error failure => simp [judgement, Registry.looked]
  | ok labels =>
      have left : (registry.left transport (run.advance
          (registry.opening ++ exchanges.flatMap Exchange.events) world)).world =
          registry.leaving transport run.isOpen world := rfl
      rcases cancelled : transport.isCancelled (registry.leaving transport run.isOpen world) with
        ⟨_ | _, final⟩
      · simp [judgement, Registry.looked, left, cancelled]
      · simp [judgement, Registry.looked, left, cancelled]

/-- A validation whose inputs are in order, from the first event to the last. -/
theorem perform_validateImage (transport : Transport World)
    (settled : claim.target environment = .ok target) (made : claim.made target = .ok registry)
    (run : Run World Log.Entry) :
    ∃ exchanges fetched world notes,
      Conversation transport registry target.image run.isOpen (registry.entering .tag) run.world
        exchanges fetched world ∧
      Action.perform (claim.validateImage transport environment) run =
        (target.conclusion (claim.judgement target
            (transport.isCancelled (registry.leaving transport run.isOpen world)).1 fetched),
          (Registry.looked transport fetched (registry.left transport (run.advance
            (registry.opening ++ exchanges.flatMap Exchange.events) world))).noting notes) := by
  obtain ⟨exchanges, fetched, world, notes, conversation, performed⟩ :=
    perform_judge transport made (run.noting [.validating target.image target.origin claim.owner])
  rw [validateImage, Action.perform_bind, settled]
  simp only [Action.perform_ofExcept, Action.perform_bind, Action.perform_note,
    Action.perform_outcome, performed]
  simp only [Run.noting_isOpen, Run.noting_advance, Registry.left_noting, Registry.looked_noting,
    Run.noting_noting]
  cases verdict : claim.judgement target
      (transport.isCancelled (registry.leaving transport run.isOpen world)).1 fetched with
  | ok _ =>
      refine ⟨exchanges, fetched, world,
        [.validating target.image target.origin claim.owner] ++ notes ++
          [.validated target.image claim.owner], conversation, ?_⟩
      rw [verdict]
      simp only [Action.perform_note, Run.noting_noting]
      rfl
  | error failure =>
      obtain ⟨more, concluded⟩ := perform_conclude target failure
        ((Registry.looked transport fetched (registry.left transport (run.advance
          (registry.opening ++ exchanges.flatMap Exchange.events) world))).noting
            ([.validating target.image target.origin claim.owner] ++ notes))
      refine ⟨exchanges, fetched, world,
        [.validating target.image target.origin claim.owner] ++ notes ++ more, conversation, ?_⟩
      rw [verdict]
      simp only [concluded, Run.noting_noting]

/-- From one world there is one conversation, and so any that is at hand tells how the validation goes. -/
theorem perform_validateImage_of_conversation (transport : Transport World)
    (settled : claim.target environment = .ok target) (made : claim.made target = .ok registry)
    {run : Run World Log.Entry} {exchanges : List Exchange} {fetched : Except Failure Image.Labels}
    {world : World}
    (conversation : Conversation transport registry target.image run.isOpen (registry.entering .tag)
      run.world exchanges fetched world) :
    ∃ notes, Action.perform (claim.validateImage transport environment) run =
      (target.conclusion (claim.judgement target
          (transport.isCancelled (registry.leaving transport run.isOpen world)).1 fetched),
        (Registry.looked transport fetched (registry.left transport (run.advance
          (registry.opening ++ exchanges.flatMap Exchange.events) world))).noting notes) := by
  obtain ⟨others, other, final, notes, again, performed⟩ :=
    perform_validateImage transport settled made run
  obtain ⟨rfl, rfl, rfl⟩ := conversation.unique again
  exact ⟨notes, performed⟩

/-- What two validations come to when they are apart in nothing but their notes. -/
structure ApartInNotes (first second : Except Failure Unit × Run World Log.Entry) : Prop where
  result : second.1 = first.1
  trace : second.2.trace = first.2.trace
  world : second.2.world = first.2.world

/-- A validation that comes as far as its registry, with the exchanges that it makes there and that its
result and its events are told by. -/
structure Exchanged (claim : Claim) (transport : Transport World) (environment : Settings.Environment)
    (run : Run World Log.Entry) (target : Target) (registry : Registry) (exchanges : List Exchange) :
    Prop where
  settled : claim.target environment = .ok target
  made : claim.made target = .ok registry
  concluded : ∃ fetched world cancelled,
    Conversation transport registry target.image run.isOpen (registry.entering .tag) run.world
      exchanges fetched world ∧
    (Action.perform (claim.validateImage transport environment) run).1 =
      target.conclusion (claim.judgement target cancelled fetched)
  trace : (Action.perform (claim.validateImage transport environment) run).2.trace =
    run.trace ++
      (registry.opening ++ exchanges.flatMap Exchange.events ++ registry.closing run.isOpen)

theorem exchanged_of_conversation {transport : Transport World} {run : Run World Log.Entry}
    {exchanges : List Exchange} {fetched : Except Failure Image.Labels} {world : World}
    (settled : claim.target environment = .ok target) (made : claim.made target = .ok registry)
    (conversation : Conversation transport registry target.image run.isOpen (registry.entering .tag)
      run.world exchanges fetched world) :
    claim.Exchanged transport environment run target registry exchanges := by
  obtain ⟨notes, performed⟩ :=
    perform_validateImage_of_conversation transport settled made conversation
  refine ⟨settled, made, ⟨fetched, world, _, conversation, by rw [performed]⟩, ?_⟩
  simp [performed, Registry.left, List.append_assoc]

/-- Short of a registry a validation fails for one of its inputs, and does nothing that is seen. -/
theorem premature_or_exchanged (claim : Claim) (transport : Transport World)
    (environment : Settings.Environment) (run : Run World Log.Entry) :
    (∃ failure, failure.isPremature = true ∧
        (Action.perform (claim.validateImage transport environment) run).1 = .error failure ∧
        (Action.perform (claim.validateImage transport environment) run).2.trace = run.trace) ∨
      ∃ target registry exchanges,
        claim.Exchanged transport environment run target registry exchanges := by
  cases settled : claim.target environment with
  | error failure =>
      rw [perform_validateImage_unsettled transport settled]
      exact .inl ⟨failure, target_premature settled, rfl, rfl⟩
  | ok target =>
      cases made : claim.made target with
      | error failure =>
          obtain ⟨_, _, rfl, _⟩ := made_error made
          rw [perform_validateImage_unmade transport settled made]
          exact .inl ⟨_, rfl, rfl, rfl⟩
      | ok registry =>
          obtain ⟨exchanges, _, _, _, conversation, _⟩ :=
            perform_validateImage transport settled made run
          exact .inr
            ⟨target, registry, exchanges, exchanged_of_conversation settled made conversation⟩

theorem silent_or_exchanged (claim : Claim) (transport : Transport World)
    (environment : Settings.Environment) (run : Run World Log.Entry) :
    (Action.perform (claim.validateImage transport environment) run).2.trace = run.trace ∨
      ∃ target registry exchanges,
        claim.Exchanged transport environment run target registry exchanges := by
  obtain ⟨_, _, _, silent⟩ | exchanged := claim.premature_or_exchanged transport environment run
  · exact .inl silent
  · exact .inr exchanged

theorem Exchanged.coursed {transport : Transport World} {run : Run World Log.Entry}
    {exchanges : List Exchange} {exchange : Exchange}
    (exchanged : claim.Exchanged transport environment run target registry exchanges)
    (member : exchange ∈ exchanges) :
    ∃ before middle, Course transport registry.client run.isOpen
      (exchange.purpose.call registry target.image) registry.settings.retries 0 before
      exchange.events exchange.ending middle := by
  obtain ⟨_, _, _, conversation, _⟩ := exchanged.concluded
  exact conversation.coursed member

/-- A claim on a tag of an image, with a client of the caller. -/
def ofTag (tag : String) : Claim where
  descriptor := ⟨.oci, "https://ghcr.io", "me/server", tag⟩
  owner := "me/server"
  settings := some ⟨.whole 10, 0, Settings.defaultUserAgent, Settings.defaultTokenUrl, true⟩
  client := some ⟨[]⟩

/-- A claim on an image of the registry at an address. -/
def atBase (baseUrl : String) : Claim :=
  { ofTag "1" with descriptor := ⟨.oci, baseUrl, "me/server", "1"⟩ }

/-- A run in which nothing answers. -/
def unansweredRun : Run Script.World Log.Entry where
  world := { entries := [] }

end Claim

end ImageOwnership
