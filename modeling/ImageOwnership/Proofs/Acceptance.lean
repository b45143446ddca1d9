import ImageOwnership.Proofs.Session

/-!
Which images are accepted. The documents that a registry has to deliver are told one after the other,
each from the world that the one before it left, down to the label that decides. The only other way to
be accepted is a registry that limits the rate of requests for the manifest of the tag.
-/

namespace ImageOwnership

open Http

variable {World : Type}

section Deliveries

variable (transport : Transport World) (registry : Registry) (image : Image.Reference) (isOpen : Bool)

/-- A call that ends in a reply, after any redirects and repetitions and with no cancellation seen. -/
def Purpose.Brings (purpose : Purpose) (world : World) (reply : Reply) (after : World) : Prop :=
  ∃ events, Course transport registry.client isOpen (purpose.call registry image)
    registry.settings.retries 0 world events (.ok reply) after

/-- What a registry replies to the call for a document, which a token precedes where tokens are handed
out. -/
inductive Stage.Answers (stage : Stage) (world : World) (reply : Reply) (after : World) : Prop where
  | openly (anonymous : registry.authorization = .anonymous)
      (replied : (Purpose.document stage none).Brings transport registry image isOpen world reply
        after)
  | byToken {url : String} {grant : Reply} {bearer : List CodePoint} {middle : World}
      (guarded : registry.authorization = .token url)
      (granted : (Purpose.token url stage).Brings transport registry image isOpen world grant middle)
      (success : grant.status = 200) (readable : Token.read grant.body = .ok bearer)
      (replied : (Purpose.document stage (some bearer)).Brings transport registry image isOpen middle
        reply after)

/-- A reply of success whose body decodes. -/
def Stage.Delivers {α : Type} (stage : Stage) (decode : List UInt8 → Document.Decoded α)
    (world : World) (document : α) (after : World) : Prop :=
  ∃ reply, stage.Answers transport registry image isOpen world reply after ∧
    reply.status = 200 ∧ decode reply.body = .ok document

/-- The manifest of an image: the one of its tag, or the one of the first entry when the tag names a
list. -/
inductive Resolves (world : World) (manifest : Image.Manifest) (after : World) : Prop where
  | direct (delivered : Stage.tag.Delivers transport registry image isOpen Image.Manifest.read world
        manifest after)
      (single : manifest.platforms = [])
  | first {index : Image.Manifest} {digest : String} {others : List String} {middle : World}
      (delivered : Stage.tag.Delivers transport registry image isOpen Image.Manifest.read world
        index middle)
      (entries : index.platforms = digest :: others)
      (followed : (Stage.platform digest).Delivers transport registry image isOpen
        Image.Manifest.read middle manifest after)

/-- The labels of an image, in the config that its manifest names. -/
def Labelled (world : World) (labels : Image.Labels) (after : World) : Prop :=
  ∃ manifest middle config,
    Resolves transport registry image isOpen world manifest middle ∧ manifest.config ≠ "" ∧
      (Stage.config manifest.config).Delivers transport registry image isOpen Image.Config.read
        middle config after ∧
      config.labels = labels

/-- The owner label is the owner, and nobody asks to stop once the client is closed. -/
def Proven (owner : String) (world : World) : Prop :=
  ∃ labels after, Labelled transport registry image isOpen world labels after ∧
    labels.lookup ownerLabel = some owner ∧
    (transport.isCancelled (registry.leaving transport isOpen after)).1 = false

def RateLimited (world after : World) : Prop :=
  ∃ reply, Stage.tag.Answers transport registry image isOpen world reply after ∧
    reply.status = 429

def Position.Comes (position : Position) (world : World) (result : Except Failure Image.Labels)
    (after : World) : Prop :=
  ∃ exchanges, Conversation transport registry image isOpen position world exchanges result after

end Deliveries

variable {transport : Transport World} {registry : Registry} {image : Image.Reference}
  {isOpen : Bool} {world after : World} {labels : Image.Labels}

/-! ### What is earned by a reply -/

/-- Only the manifest of the tag can be refused because of a limited rate. -/
theorem Stage.failure_eq_rateLimited_iff {stage : Stage} {fault : FetchFault}
    {named : Image.Reference} :
    stage.failure image fault = .rateLimited named ↔
      stage = .tag ∧ fault = .status 429 ∧ image = named := by
  cases stage with
  | tag =>
      simp only [Stage.failure, Registry.tagFailure]
      split <;> simp_all
  | platform digest => simp [Stage.failure]
  | config digest => simp [Stage.failure]

theorem Token.read_ne_rateLimited {body : List UInt8} {named : Image.Reference} :
    Token.read body ≠ .error (.rateLimited named) := by
  unfold Token.read
  split <;> simp

/-- What a validation can be accepted for: labels, or a limited rate. -/
inductive Earned : Except Failure Image.Labels → Prop where
  | fetched {labels : Image.Labels} : Earned (.ok labels)
  | limited {named : Image.Reference} : Earned (.error (.rateLimited named))

theorem Earned.after_error_ne {result : Except Failure Image.Labels} (earned : Earned result)
    (registry : Registry) (image : Image.Reference) {purpose : Purpose} {stop : Stop} :
    registry.after image purpose (.error stop) ≠ .ended result := by
  cases earned with
  | fetched =>
      obtain ⟨failure, failed⟩ := registry.after_error image purpose stop
      simp [failed]
  | limited =>
      rcases stop with ⟨_ | _⟩ | _
      case fault.request =>
        cases purpose with
        | token url stage => simp [Registry.after, Purpose.failed]
        | document stage bearer =>
            simp [Registry.after, Purpose.failed, Stage.failure_eq_rateLimited_iff]
      all_goals simp [Registry.after]

namespace Position

theorem comes_ended {result other : Except Failure Image.Labels} :
    (ended result).Comes transport registry image isOpen world other after ↔
      result = other ∧ world = after := by
  constructor
  · intro reached
    obtain ⟨_, conversation⟩ := reached
    cases conversation
    exact ⟨rfl, rfl⟩
  · intro shown
    obtain ⟨rfl, rfl⟩ := shown
    exact ⟨[], .finished⟩

theorem comes_calling {purpose : Purpose} {result : Except Failure Image.Labels} :
    (calling purpose).Comes transport registry image isOpen world result after ↔
      ∃ events ending middle, Course transport registry.client isOpen (purpose.call registry image)
          registry.settings.retries 0 world events ending middle ∧
        (registry.after image purpose ending).Comes transport registry image isOpen middle result
          after := by
  constructor
  · intro reached
    obtain ⟨_, conversation⟩ := reached
    cases conversation with
    | calls course rest => exact ⟨_, _, _, course, _, rest⟩
  · intro shown
    obtain ⟨_, _, _, course, _, rest⟩ := shown
    exact ⟨_, .calls course rest⟩

/-- A call comes to something earned by a reply only. -/
theorem comes_calling_earned {purpose : Purpose} {result : Except Failure Image.Labels}
    (earned : Earned result) :
    (calling purpose).Comes transport registry image isOpen world result after ↔
      ∃ reply middle, purpose.Brings transport registry image isOpen world reply middle ∧
        (registry.after image purpose (.ok reply)).Comes transport registry image isOpen middle result
          after := by
  rw [comes_calling]
  constructor
  · intro reached
    obtain ⟨events, ending, middle, course, rest⟩ := reached
    cases ending with
    | error stop =>
        obtain ⟨failure, failed⟩ := Registry.after_error registry image purpose stop
        rw [failed, comes_ended] at rest
        obtain ⟨rfl, _⟩ := rest
        exact absurd failed (earned.after_error_ne registry image)
    | ok reply => exact ⟨reply, middle, ⟨events, course⟩, rest⟩
  · intro shown
    obtain ⟨reply, middle, ⟨events, course⟩, rest⟩ := shown
    exact ⟨events, .ok reply, middle, course, rest⟩

/-- Nothing is earned with a token but the call that carries it. -/
theorem comes_token_earned {url : String} {stage : Stage} {result : Except Failure Image.Labels}
    (earned : Earned result) :
    (calling (.token url stage)).Comes transport registry image isOpen world result after ↔
      ∃ grant bearer middle,
        (Purpose.token url stage).Brings transport registry image isOpen world grant middle ∧
        grant.status = 200 ∧ Token.read grant.body = .ok bearer ∧
        (calling (.document stage (some bearer))).Comes transport registry image isOpen middle result
          after := by
  rw [comes_calling_earned earned]
  constructor
  · intro reached
    obtain ⟨grant, middle, granted, rest⟩ := reached
    by_cases success : grant.status = 200
    · rw [Registry.after_success success, Registry.receiving, Registry.granting] at rest
      cases readable : Token.read grant.body with
      | error failure =>
          rw [readable, comes_ended] at rest
          obtain ⟨rfl, _⟩ := rest
          cases earned with
          | limited => exact absurd readable Token.read_ne_rateLimited
      | ok bearer =>
          rw [readable] at rest
          exact ⟨grant, bearer, middle, granted, success, readable, rest⟩
    · rw [Registry.after_refused success, comes_ended] at rest
      obtain ⟨rfl, _⟩ := rest
      cases earned
  · intro shown
    obtain ⟨grant, bearer, middle, granted, success, readable, rest⟩ := shown
    refine ⟨grant, middle, granted, ?_⟩
    rwa [Registry.after_success success, Registry.receiving, Registry.granting, readable]

/-- With or without a token, what is earned follows from the reply to the call for a document. -/
theorem comes_entering_earned {stage : Stage} {result : Except Failure Image.Labels}
    (earned : Earned result) :
    (registry.entering stage).Comes transport registry image isOpen world result after ↔
      ∃ reply middle, stage.Answers transport registry image isOpen world reply middle ∧
        (registry.after image (.document stage none) (.ok reply)).Comes transport registry image isOpen
          middle result after := by
  unfold Registry.entering
  cases authorization : registry.authorization with
  | anonymous =>
      simp only [comes_calling_earned earned]
      constructor
      · intro reached
        obtain ⟨reply, middle, replied, rest⟩ := reached
        exact ⟨reply, middle, .openly authorization replied, rest⟩
      · intro shown
        obtain ⟨reply, middle, answers, rest⟩ := shown
        cases answers with
        | openly _ replied => exact ⟨reply, middle, replied, rest⟩
        | byToken guarded =>
            rw [authorization] at guarded
            cases guarded
  | token url =>
      simp only [comes_token_earned earned, comes_calling_earned earned]
      constructor
      · intro reached
        obtain ⟨grant, bearer, between, granted, accepted, readable, reply, middle, replied, rest⟩ :=
          reached
        exact ⟨reply, middle, .byToken authorization granted accepted readable replied, rest⟩
      · intro shown
        obtain ⟨reply, middle, answers, rest⟩ := shown
        cases answers with
        | openly anonymous =>
            rw [authorization] at anonymous
            cases anonymous
        | byToken guarded granted accepted readable replied =>
            rw [authorization] at guarded
            cases guarded
            exact ⟨_, _, _, granted, accepted, readable, reply, middle, replied, rest⟩

theorem comes_entering_ok {stage : Stage} :
    (registry.entering stage).Comes transport registry image isOpen world (.ok labels) after ↔
      ∃ reply middle, stage.Answers transport registry image isOpen world reply middle ∧
        reply.status = 200 ∧
        (registry.reading image stage reply.body).Comes transport registry image isOpen middle
          (.ok labels) after := by
  rw [comes_entering_earned .fetched]
  constructor
  · intro reached
    obtain ⟨reply, middle, answers, rest⟩ := reached
    by_cases success : reply.status = 200
    · rw [Registry.after_success success] at rest
      exact ⟨reply, middle, answers, success, rest⟩
    · rw [Registry.after_refused success, comes_ended] at rest
      cases rest.1
  · intro shown
    obtain ⟨reply, middle, answers, success, rest⟩ := shown
    refine ⟨reply, middle, answers, ?_⟩
    rwa [Registry.after_success success, Registry.receiving]

theorem comes_document_ok {α : Type} {stage : Stage} {decode : List UInt8 → Document.Decoded α}
    {onward : α → Position}
    (reads : registry.reading image stage = Registry.decoding image stage decode onward) :
    (registry.entering stage).Comes transport registry image isOpen world (.ok labels) after ↔
      ∃ document middle,
        stage.Delivers transport registry image isOpen decode world document middle ∧
        (onward document).Comes transport registry image isOpen middle (.ok labels) after := by
  rw [comes_entering_ok, reads]
  constructor
  · intro reached
    obtain ⟨reply, middle, answers, success, rest⟩ := reached
    unfold Registry.decoding at rest
    cases decoded : decode reply.body with
    | error faults =>
        rw [decoded, comes_ended] at rest
        cases rest.1
    | ok document =>
        rw [decoded] at rest
        exact ⟨document, middle, ⟨reply, answers, success, decoded⟩, rest⟩
  · intro shown
    obtain ⟨document, middle, ⟨reply, answers, success, decoded⟩, rest⟩ := shown
    refine ⟨reply, middle, answers, success, ?_⟩
    simpa only [Registry.decoding, decoded] using rest

theorem comes_settling_ok {digest : String} :
    (registry.settling image digest).Comes transport registry image isOpen world (.ok labels) after ↔
      digest ≠ "" ∧ ∃ config,
        (Stage.config digest).Delivers transport registry image isOpen Image.Config.read world config
          after ∧
        config.labels = labels := by
  unfold Registry.settling
  by_cases empty : digest = ""
  · simp [empty, comes_ended]
  · have named : digest.isEmpty = false := by simpa using empty
    rw [named, if_neg Bool.false_ne_true, comes_document_ok rfl]
    simp only [comes_ended, Except.ok.injEq]
    constructor
    · intro reached
      obtain ⟨config, _, delivered, same, rfl⟩ := reached
      exact ⟨empty, config, delivered, same⟩
    · intro shown
      obtain ⟨_, config, delivered, same⟩ := shown
      exact ⟨config, after, delivered, same, rfl⟩

/-- A validation gets to labels along the deliveries, and in no other way. -/
theorem comes_labelled :
    (registry.entering .tag).Comes transport registry image isOpen world (.ok labels) after ↔
      Labelled transport registry image isOpen world labels after := by
  rw [comes_document_ok rfl]
  constructor
  · intro reached
    obtain ⟨index, middle, delivered, rest⟩ := reached
    unfold Registry.tagged at rest
    cases entries : index.platforms with
    | nil =>
        rw [entries, comes_settling_ok] at rest
        obtain ⟨named, config, configured, same⟩ := rest
        exact ⟨index, middle, config, .direct delivered entries, named, configured, same⟩
    | cons digest others =>
        rw [entries, comes_document_ok rfl] at rest
        obtain ⟨manifest, later, followed, rest⟩ := rest
        rw [comes_settling_ok] at rest
        obtain ⟨named, config, configured, same⟩ := rest
        exact ⟨manifest, later, config, .first delivered entries followed, named, configured, same⟩
  · intro shown
    obtain ⟨manifest, later, config, resolves, named, configured, same⟩ := shown
    have settled := comes_settling_ok.mpr ⟨named, config, configured, same⟩
    cases resolves with
    | direct delivered single =>
        refine ⟨manifest, later, delivered, ?_⟩
        simpa only [Registry.tagged, single] using settled
    | first delivered entries followed =>
        refine ⟨_, _, delivered, ?_⟩
        simp only [Registry.tagged, entries]
        exact (comes_document_ok rfl).mpr ⟨manifest, later, followed, settled⟩

end Position

/-! ### Limited rates -/

namespace Position

/-- A position after which the manifest of the tag is not asked for. -/
inductive BeyondTag : Position → Prop where
  | token {url : String} {stage : Stage} (beyond : stage ≠ .tag) :
      BeyondTag (calling (.token url stage))
  | document {stage : Stage} {bearer : Option (List CodePoint)} (beyond : stage ≠ .tag) :
      BeyondTag (calling (.document stage bearer))
  | ended {result : Except Failure Image.Labels}
      (unlimited : ∀ named, result ≠ .error (.rateLimited named)) : BeyondTag (ended result)

theorem BeyondTag.entering (registry : Registry) {stage : Stage} (beyond : stage ≠ .tag) :
    BeyondTag (registry.entering stage) := by
  unfold Registry.entering
  cases registry.authorization with
  | anonymous => exact .document beyond
  | token url => exact .token beyond

theorem BeyondTag.settling (registry : Registry) (image : Image.Reference) (digest : String) :
    BeyondTag (registry.settling image digest) := by
  unfold Registry.settling
  split
  · exact .ended (by simp)
  · exact .entering registry (by simp)

theorem BeyondTag.failure {stage : Stage} {fault : FetchFault}
    (other : stage ≠ .tag ∨ fault ≠ .status 429) (image : Image.Reference) :
    BeyondTag (Position.ended (.error (stage.failure image fault))) := by
  refine .ended ?_
  intro named limited
  obtain ⟨tag, refused, _⟩ := Stage.failure_eq_rateLimited_iff.mp (Except.error.inj limited)
  exact other.elim (· tag) (· refused)

theorem BeyondTag.decoding {α : Type} {stage : Stage} {decode : List UInt8 → Document.Decoded α}
    {onward : α → Position} {body : List UInt8} (led : ∀ document, BeyondTag (onward document)) :
    BeyondTag (Registry.decoding image stage decode onward body) := by
  unfold Registry.decoding
  split
  · exact .failure (.inr (by simp)) image
  · exact led _

/-- Once a body is there, even that of the tag, the manifest of the tag is not asked for again. -/
theorem BeyondTag.reading (registry : Registry) (image : Image.Reference) (stage : Stage)
    (body : List UInt8) : BeyondTag (registry.reading image stage body) := by
  cases stage with
  | tag =>
      refine .decoding ?_
      intro manifest
      unfold Registry.tagged
      cases manifest.platforms with
      | nil => exact .settling registry image manifest.config
      | cons digest others => exact .entering registry (by simp)
  | platform digest => exact .decoding fun manifest => .settling registry image manifest.config
  | config digest => exact .decoding fun config => .ended (by simp)

/-- Whatever a call comes to, it does not lead back to the manifest of the tag. -/
theorem BeyondTag.kept {purpose : Purpose} (beyond : BeyondTag (calling purpose))
    (registry : Registry) (image : Image.Reference) (ending : Except Stop Reply) :
    BeyondTag (registry.after image purpose ending) := by
  cases beyond with
  | token beyond =>
      rcases ending with (⟨⟨_⟩ | _⟩ | _) | reply
      case ok =>
        simp only [Registry.after, Registry.receiving, Registry.granting]
        split
        · split
          · rename_i failure unreadable
            refine .ended ?_
            intro named same
            cases same
            exact Token.read_ne_rateLimited unreadable
          · exact .document beyond
        · exact .ended (by simp [Purpose.refused])
      all_goals exact .ended (by simp [Purpose.failed])
  | document beyond =>
      rcases ending with (⟨⟨_⟩ | _⟩ | _) | reply
      case ok =>
        simp only [Registry.after, Registry.receiving]
        split
        · exact .reading registry image _ reply.body
        · exact .failure (.inl beyond) image
      case error.fault.request => exact .failure (.inl beyond) image
      all_goals exact .ended (by simp)

theorem BeyondTag.unlimited {position : Position} {result : Except Failure Image.Labels}
    {exchanges : List Exchange} (beyond : BeyondTag position)
    (conversation : Conversation transport registry image isOpen position world exchanges result after)
    (named : Image.Reference) : result ≠ .error (.rateLimited named) := by
  -- Each call keeps the position beyond the tag, up to the end.
  induction conversation with
  | finished =>
      cases beyond with
      | ended unlimited => exact unlimited named
  | calls course _ ih => exact ih (beyond.kept registry image _)

theorem comes_rateLimited {named : Image.Reference} :
    (registry.entering .tag).Comes transport registry image isOpen world
        (.error (.rateLimited named)) after ↔
      named = image ∧ RateLimited transport registry image isOpen world after := by
  rw [comes_entering_earned .limited]
  constructor
  · intro reached
    obtain ⟨reply, middle, answers, rest⟩ := reached
    by_cases success : reply.status = 200
    · rw [Registry.after_success success, Registry.receiving] at rest
      obtain ⟨_, conversation⟩ := rest
      exact absurd rfl ((BeyondTag.reading registry image .tag reply.body).unlimited conversation
        named)
    · simp only [Registry.after_refused success, comes_ended, Except.error.injEq, Purpose.refused,
        Stage.failure_eq_rateLimited_iff, FetchFault.status.injEq] at rest
      obtain ⟨⟨_, limited, rfl⟩, rfl⟩ := rest
      exact ⟨rfl, reply, answers, limited⟩
  · intro shown
    obtain ⟨rfl, reply, answers, limited⟩ := shown
    refine ⟨reply, after, answers, ?_⟩
    simp [Registry.after, limited, comes_ended, Purpose.refused, Stage.failure, Registry.tagFailure]

theorem Comes.unique {position : Position} {result other : Except Failure Image.Labels}
    {final : World} (first : position.Comes transport registry image isOpen world result after)
    (second : position.Comes transport registry image isOpen world other final) :
    result = other ∧ after = final := by
  obtain ⟨_, conversation⟩ := first
  obtain ⟨_, again⟩ := second
  exact (conversation.unique again).2

end Position

/-! ### The verdict -/

namespace Claim

variable {claim : Claim} {target : Target} {environment : Settings.Environment}

theorem verifyLabels_eq_ok_iff {owner : String} :
    verifyLabels labels owner image = .ok () ↔ labels.lookup ownerLabel = some owner := by
  unfold verifyLabels
  cases labels.lookup ownerLabel with
  | none => simp
  | some actual =>
      by_cases same : actual = owner
      · simp [same]
      · simp [same]

theorem Target.conclusion_eq_ok_iff {verdict : Except Failure Unit} :
    target.conclusion verdict = .ok () ↔
      verdict = .ok () ∨
        target.settings.skipsRateLimit = true ∧ ∃ named, verdict = .error (.rateLimited named) := by
  unfold conclusion
  split
  · split <;> simp_all
  · rename_i other
    constructor
    · exact .inl
    · intro cause
      obtain passed | ⟨_, named, limited⟩ := cause
      · exact passed
      · exact absurd limited (other named)

theorem verifyLabels_ne_rateLimited {owner : String} {named : Image.Reference} :
    verifyLabels labels owner image ≠ .error (.rateLimited named) := by
  unfold verifyLabels
  split
  · simp
  · split <;> simp

/-- A verdict is good when the labels are there, nobody has cancelled and the owner is right; a limited
rate is no verdict of its own but comes from what was fetched. -/
theorem judgement_eq_ok_iff {cancelled : Bool} {fetched : Except Failure Image.Labels} :
    claim.judgement target cancelled fetched = .ok () ↔
      ∃ labels, fetched = .ok labels ∧ labels.lookup ownerLabel = some claim.owner ∧
        cancelled = false := by
  unfold judgement
  cases fetched with
  | error failure => simp
  | ok labels => cases cancelled <;> simp [verifyLabels_eq_ok_iff]

theorem judgement_eq_rateLimited_iff {cancelled : Bool} {fetched : Except Failure Image.Labels}
    {named : Image.Reference} :
    claim.judgement target cancelled fetched = .error (.rateLimited named) ↔
      fetched = .error (.rateLimited named) := by
  unfold judgement
  cases fetched with
  | error failure => simp
  | ok labels => cases cancelled <;> simp [verifyLabels_ne_rateLimited]

/-- For a target and a registry, exactly what is proven or excused is accepted. -/
theorem accepts_target_iff (transport : Transport World)
    (settled : claim.target environment = .ok target) (made : claim.made target = .ok registry)
    (run : Run World Log.Entry) :
    (Action.perform (claim.validateImage transport environment) run).1 = .ok () ↔
      Proven transport registry target.image run.isOpen claim.owner run.world ∨
        target.settings.skipsRateLimit = true ∧
          ∃ after, RateLimited transport registry target.image run.isOpen run.world after := by
  obtain ⟨exchanges, fetched, world, notes, conversation, performed⟩ :=
    perform_validateImage transport settled made run
  have comes : (registry.entering .tag).Comes transport registry target.image run.isOpen run.world
      fetched world := ⟨exchanges, conversation⟩
  rw [performed, Target.conclusion_eq_ok_iff, judgement_eq_ok_iff]
  simp only [judgement_eq_rateLimited_iff]
  constructor
  · intro accepted
    obtain ⟨labels, rfl, bound, still⟩ | ⟨skips, named, rfl⟩ := accepted
    · exact .inl ⟨labels, world, Position.comes_labelled.mp comes, bound, still⟩
    · exact .inr ⟨skips, world, (Position.comes_rateLimited.mp comes).2⟩
  · intro earned
    obtain ⟨labels, after, labelled, bound, still⟩ | ⟨skips, after, limited⟩ := earned
    · obtain ⟨rfl, rfl⟩ := comes.unique (Position.comes_labelled.mpr labelled)
      exact .inl ⟨labels, rfl, bound, still⟩
    · obtain ⟨rfl, rfl⟩ := comes.unique (Position.comes_rateLimited.mpr ⟨rfl, limited⟩)
      exact .inr ⟨skips, target.image, rfl⟩

/-- A validation accepts exactly when its inputs are in order and either the documents of the registry
prove the owner, with no cancellation seen up to the last look after the client is closed, or the
manifest of the tag is refused because of a limited rate and the settings forgive that. -/
theorem validateImage_accepts_iff (claim : Claim) (transport : Transport World)
    (environment : Settings.Environment) (run : Run World Log.Entry) :
    (Action.perform (claim.validateImage transport environment) run).1 = .ok () ↔
      ∃ settings origin repository registry,
        claim.settingsIn environment = .ok settings ∧
        claim.providers.resolve claim.descriptor.registryBaseUrl = .ok origin ∧
        claim.descriptor.identifier.toList.count '/' ≤ 1 ∧
        Image.Repository.ofIdentifier? claim.descriptor.identifier = some repository ∧
        claim.made ⟨settings, origin, ⟨repository, claim.descriptor.version⟩⟩ = .ok registry ∧
        (Proven transport registry ⟨repository, claim.descriptor.version⟩ run.isOpen claim.owner
            run.world ∨
          settings.skipsRateLimit = true ∧ ∃ after, RateLimited transport registry
            ⟨repository, claim.descriptor.version⟩ run.isOpen run.world after) := by
  constructor
  · intro accepted
    cases settled : claim.target environment with
    | error failure =>
        rw [perform_validateImage_unsettled transport settled] at accepted
        cases accepted
    | ok target =>
        cases made : claim.made target with
        | error failure =>
            rw [perform_validateImage_unmade transport settled made] at accepted
            cases accepted
        | ok registry =>
            rw [accepts_target_iff transport settled made] at accepted
            obtain ⟨given, resolved, named, version⟩ := target_eq_ok_iff.mp settled
            obtain ⟨settings, origin, repository, tag⟩ := target
            subst version
            have slashes : claim.descriptor.identifier.toList.count '/' ≤ 1 := by
              rw [← Image.Repository.ofIdentifier?_isSome_iff, named]
              rfl
            exact ⟨settings, origin, repository, registry, given, resolved, slashes, named, made,
              accepted⟩
  · intro shown
    obtain ⟨settings, origin, repository, registry, given, resolved, _, named, made, earned⟩ := shown
    have settled : claim.target environment =
        .ok ⟨settings, origin, ⟨repository, claim.descriptor.version⟩⟩ :=
      target_eq_ok_iff.mpr ⟨given, resolved, named, rfl⟩
    exact (accepts_target_iff transport settled made run).mpr earned

end Claim

end ImageOwnership
