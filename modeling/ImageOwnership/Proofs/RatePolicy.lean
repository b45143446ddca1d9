import ImageOwnership.Proofs.Acceptance
import ImageOwnership.Proofs.Attribution
import ImageOwnership.Proofs.RequestPlan
import ImageOwnership.Proofs.Variation

/-!
What it changes that a limited rate is forgiven. Two validations that are apart in nothing else do the
same, and they end alike unless the rate is limited for the manifest of the tag.
-/

namespace ImageOwnership

open Http

variable {World : Type}

/-- The same settings, under which a limited rate is forgiven or not. -/
def Settings.withPolicy (skips : Bool) (settings : Settings) : Settings :=
  { settings with skipsRateLimit := skips }

def Registry.withPolicy (skips : Bool) (registry : Registry) : Registry :=
  { registry with settings := registry.settings.withPolicy skips }

/-- A call is answered, and the answer is that the rate is limited. -/
def Exchange.IsLimited (exchange : Exchange) : Prop :=
  ∃ reply, exchange.ending = .ok reply ∧ reply.status = 429

def Purpose.isTag : Purpose → Bool
  | .document .tag _ => true
  | _ => false

theorem Exchange.IsLimited.unsuccessful {exchange : Exchange} (limited : exchange.IsLimited) :
    ¬ exchange.Succeeds := by
  obtain ⟨reply, answered, status⟩ := limited
  rintro ⟨body, delivered, _⟩
  simp [Exchange.body?, answered, status] at delivered

section Calls

variable {transport : Transport World} {registry : Registry} {image : Image.Reference}
  {isOpen : Bool} {world after : World} {exchanges : List Exchange}
  {result : Except Failure Image.Labels}

theorem Registry.after_limited {exchange : Exchange} (limited : exchange.IsLimited) :
    registry.after image exchange.purpose exchange.ending =
      .ended (.error (exchange.purpose.refused image 429)) := by
  obtain ⟨reply, answered, status⟩ := limited
  rw [answered, after_refused (by omega), status]

/-- No call looks at the policy, and none is made or left out because of it. -/
theorem Conversation.withPolicy (skips : Bool) {position : Position}
    (conversation : Conversation transport registry image isOpen position world exchanges result
      after) :
    Conversation transport (registry.withPolicy skips) image isOpen position world exchanges result
      after := by
  -- Neither a call nor the position after it mentions the policy, so each is the same under both.
  induction conversation with
  | finished => exact .finished
  | calls course _ ih => exact .calls course ih

/-- A call that finds the rate limited is the last one, and its refusal is the result. -/
theorem Conversation.limited {stage : Stage}
    (conversation : Conversation transport registry image isOpen (registry.entering stage) world
      exchanges result after)
    {earlier later : List Exchange} {exchange : Exchange}
    (split : exchanges = earlier ++ exchange :: later) (limited : exchange.IsLimited) :
    later = [] ∧ result = .error (exchange.purpose.refused image 429) := by
  have member : exchange ∈ exchanges := by simp [split]
  refine ⟨?_, conversation.ended member (Registry.after_limited limited)⟩
  by_contra more
  exact limited.unsuccessful ((conversation.cut split).mp more).1

/-- A limited rate is the result only after a call that finds one for the manifest of the tag. -/
theorem Conversation.limited_of_rateLimited {stage : Stage} {named : Image.Reference}
    (conversation : Conversation transport registry image isOpen (registry.entering stage) world
      exchanges (.error (.rateLimited named)) after) :
    ∃ exchange ∈ exchanges, exchange.IsLimited ∧ exchange.purpose.isTag = true := by
  obtain ⟨earlier, last, rfl, ended⟩ := conversation.concluded_entering
  refine ⟨last, List.mem_append_right _ (List.mem_singleton_self last), ?_⟩
  have row : Attributed "" false last.purpose last.ending .rateLimited (some 429) none :=
    (Registry.after_failed ended).attributed rfl nofun fun _ => rfl
  obtain ⟨purpose, events, ending⟩ := last
  cases row with
  | tagLimited limited _ => exact ⟨⟨_, rfl, limited⟩, rfl⟩

end Calls

theorem Purpose.refused_untagged {purpose : Purpose} (other : purpose.isTag = false)
    (image : Image.Reference) (status : Nat) :
    (purpose.refused image status).kind ∈ [.token, .manifestFetch, .configFetch] ∧
      (purpose.refused image status).status? = some status := by
  cases purpose with
  | token url stage => exact ⟨by simp [refused, Failure.kind], rfl⟩
  | document stage bearer =>
      cases stage with
      | tag => cases other
      | platform digest => exact ⟨by simp [refused, Stage.failure, Failure.kind], rfl⟩
      | config digest => exact ⟨by simp [refused, Stage.failure, Failure.kind], rfl⟩

namespace Claim

def Target.withPolicy (skips : Bool) (target : Target) : Target :=
  { target with settings := target.settings.withPolicy skips }

/-- Two claims under environments that have nothing between them but the policy. -/
structure ApartInPolicy (strict : Claim) (here : Settings.Environment) (lenient : Claim)
    (there : Settings.Environment) : Prop where
  descriptor : lenient.descriptor = strict.descriptor
  owner : lenient.owner = strict.owner
  providers : lenient.providers = strict.providers
  client : lenient.client = strict.client
  settings : ∃ settings : Settings, strict.settingsIn here = .ok (settings.withPolicy false) ∧
    lenient.settingsIn there = .ok (settings.withPolicy true)

/-- What the policy decides, in view of the calls that are made under either. -/
structure PolicyDecides (image : Image.Reference) (exchanges : List Exchange)
    (strict lenient : Except Failure Unit) : Prop where
  last : ∀ earlier exchange later, exchanges = earlier ++ exchange :: later → exchange.IsLimited →
    later = []
  tag : ∀ exchange ∈ exchanges, exchange.IsLimited → exchange.purpose.isTag = true →
    (∃ failure, strict = .error failure ∧ failure.kind = .rateLimited ∧
      failure.status? = some 429) ∧ lenient = .ok ()
  untagged : ∀ exchange ∈ exchanges, exchange.IsLimited → exchange.purpose.isTag = false →
    ∃ failure, strict = .error failure ∧ lenient = .error failure ∧
      failure = exchange.purpose.refused image 429 ∧
      failure.kind ∈ [.token, .manifestFetch, .configFetch] ∧ failure.status? = some 429
  alike : (∀ exchange ∈ exchanges, exchange.IsLimited → exchange.purpose.isTag = false) →
    lenient = strict

section Apart

variable {strict lenient : Claim} {here there : Settings.Environment}

theorem ApartInPolicy.inSettings (apart : ApartInPolicy strict here lenient there) :
    ∃ settings : Settings, ApartInSettings strict here (settings.withPolicy false) lenient there
      (Settings.withPolicy true) := by
  obtain ⟨settings, unforgiving, forgiving⟩ := apart.settings
  exact ⟨settings, apart.descriptor, apart.owner, apart.providers, apart.client, unforgiving, forgiving⟩

theorem ApartInPolicy.target (apart : ApartInPolicy strict here lenient there) :
    (∃ failure, strict.target here = .error failure ∧ lenient.target there = .error failure) ∨
      ∃ target : Target, strict.target here = .ok (target.withPolicy false) ∧
        lenient.target there = .ok (target.withPolicy true) := by
  obtain ⟨settings, inSettings⟩ := apart.inSettings
  obtain failed | ⟨target, unforgiving, settled, resettled⟩ := inSettings.target
  · exact .inl failed
  · have same : target.withPolicy false = target := by
      rw [Target.withPolicy, unforgiving]
      exact congrArg (fun settings => { target with settings }) unforgiving.symm
    exact .inr ⟨target, same ▸ settled, resettled⟩

theorem ApartInPolicy.made (apart : ApartInPolicy strict here lenient there) (target : Target) :
    lenient.made (target.withPolicy true) =
      (strict.made (target.withPolicy false)).map (Registry.withPolicy true) := by
  obtain ⟨settings, inSettings⟩ := apart.inSettings
  exact inSettings.made (fun _ => rfl) (fun _ => rfl) (target.withPolicy false)

theorem ApartInPolicy.judgement (apart : ApartInPolicy strict here lenient there) (target : Target)
    (cancelled : Bool) (fetched : Except Failure Image.Labels) :
    lenient.judgement (target.withPolicy true) cancelled fetched =
      strict.judgement (target.withPolicy false) cancelled fetched := by
  obtain ⟨settings, inSettings⟩ := apart.inSettings
  exact inSettings.judgement (target.withPolicy false) cancelled fetched

end Apart

theorem Target.conclusion_strict (target : Target) (verdict : Except Failure Unit) :
    (target.withPolicy false).conclusion verdict = verdict := by
  unfold conclusion
  split <;> rfl

variable {claim : Claim} {target : Target}

theorem policyDecides {transport : Transport World} {registry : Registry} {isOpen : Bool}
    {world after : World} {exchanges : List Exchange} {fetched : Except Failure Image.Labels}
    {cancelled : Bool}
    (conversation : Conversation transport registry target.image isOpen (registry.entering .tag) world
      exchanges fetched after) :
    PolicyDecides target.image exchanges
      ((target.withPolicy false).conclusion (claim.judgement target cancelled fetched))
      ((target.withPolicy true).conclusion (claim.judgement target cancelled fetched)) := by
  rw [Target.conclusion_strict]
  refine { last := ?_, tag := ?_, untagged := ?_, alike := ?_ }
  · intro earlier exchange later split limited
    exact (conversation.limited split limited).1
  · intro exchange member limited tagged
    obtain ⟨earlier, later, split⟩ := List.append_of_mem member
    obtain ⟨_, rfl⟩ := conversation.limited split limited
    obtain ⟨_ | ⟨_ | _ | _, bearer⟩, events, ending⟩ := exchange
    case document.tag => exact ⟨⟨_, rfl, rfl, rfl⟩, rfl⟩
    all_goals cases tagged
  · intro exchange member limited other
    obtain ⟨earlier, later, split⟩ := List.append_of_mem member
    obtain ⟨_, rfl⟩ := conversation.limited split limited
    obtain ⟨kind, status⟩ := exchange.purpose.refused_untagged other target.image 429
    refine ⟨_, rfl, ?_, rfl, kind, status⟩
    -- The refusal has a kind of its own, and the policy is about another one.
    refine (target.withPolicy true).conclusion_unlimited ?_
    intro named same
    rw [Except.error.inj same] at kind
    simp [Failure.kind] at kind
  · intro untagged
    refine (target.withPolicy true).conclusion_unlimited ?_
    intro named judged
    obtain rfl := judgement_eq_rateLimited_iff.mp judged
    obtain ⟨exchange, member, limited, tagged⟩ := conversation.limited_of_rateLimited
    rw [untagged exchange member limited] at tagged
    cases tagged

/-- Validations that are apart in the policy alone make the same calls, wait and are cancelled alike, and
leave the same world. Short of a registry they fail alike; otherwise the policy decides, and only on a
limited rate of the tag. -/
theorem validateImage_policy {strict lenient : Claim} {here there : Settings.Environment}
    (apart : ApartInPolicy strict here lenient there) (transport : Transport World)
    (run : Run World Log.Entry) :
    (Action.perform (lenient.validateImage transport there) run).2.trace =
        (Action.perform (strict.validateImage transport here) run).2.trace ∧
      (Action.perform (lenient.validateImage transport there) run).2.world =
        (Action.perform (strict.validateImage transport here) run).2.world ∧
      (((Action.perform (strict.validateImage transport here) run).2.trace = run.trace ∧
          ∃ failure,
            (Action.perform (strict.validateImage transport here) run).1 = .error failure ∧
            (Action.perform (lenient.validateImage transport there) run).1 = .error failure) ∨
        ∃ target registry exchanges,
          strict.Exchanged transport here run target registry exchanges ∧
          PolicyDecides target.image exchanges
            (Action.perform (strict.validateImage transport here) run).1
            (Action.perform (lenient.validateImage transport there) run).1) := by
  obtain ⟨failure, unsettled, again⟩ | ⟨target, settled, resettled⟩ := apart.target
  · rw [perform_validateImage_unsettled transport unsettled,
      perform_validateImage_unsettled transport again]
    exact ⟨rfl, rfl, .inl ⟨rfl, failure, rfl, rfl⟩⟩
  · have remade := apart.made target
    cases made : strict.made (target.withPolicy false) with
    | error failure =>
        rw [made] at remade
        rw [perform_validateImage_unmade transport settled made,
          perform_validateImage_unmade transport resettled remade]
        exact ⟨rfl, rfl, .inl ⟨rfl, failure, rfl, rfl⟩⟩
    | ok registry =>
        rw [made] at remade
        obtain ⟨exchanges, fetched, world, notes, conversation, performed⟩ :=
          perform_validateImage transport settled made run
        have exchanged := exchanged_of_conversation settled made conversation
        obtain ⟨others, repeated⟩ := perform_validateImage_of_conversation transport resettled remade
          (conversation.withPolicy true)
        rw [apart.judgement] at repeated
        rw [performed, repeated]
        exact ⟨rfl, rfl, .inr ⟨_, registry, exchanges, exchanged, policyDecides conversation⟩⟩

/-- A claim under settings that do not forgive a limited rate. -/
def ofTagStrict (tag : String) : Claim :=
  { ofTag tag with settings := (ofTag tag).settings.map (Settings.withPolicy false) }

def limitedRun : Run Script.World Log.Entry where
  world := { entries := [{ answer := .ok ⟨429, none, []⟩ }] }

/-- Where the rate is limited for the manifest of the tag, the policy decides. -/
theorem limited_policy :
    ∃ target registry exchanges,
      (ofTagStrict "1").Exchanged Script.transport (fun _ => none) limitedRun target registry
        exchanges ∧
      PolicyDecides target.image exchanges (.error (.rateLimited ⟨⟨"me", "server"⟩, "1"⟩))
        (.ok ()) := by
  have apart : ApartInPolicy (ofTagStrict "1") (fun _ => none) (ofTag "1") (fun _ => none) :=
    ⟨rfl, rfl, rfl, rfl, _, rfl, rfl⟩
  have failed : (Action.perform ((ofTagStrict "1").validateImage Script.transport fun _ => none)
      limitedRun).1 = .error (.rateLimited ⟨⟨"me", "server"⟩, "1"⟩) := by
    decide +kernel
  have passed : (Action.perform ((ofTag "1").validateImage Script.transport fun _ => none)
      limitedRun).1 = .ok () := by
    decide +kernel
  obtain ⟨_, _, ⟨_, failure, _, also⟩ | decided⟩ :=
    validateImage_policy apart Script.transport limitedRun
  · rw [passed] at also
    cases also
  · rwa [failed, passed] at decided

end Claim

end ImageOwnership
