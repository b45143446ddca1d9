import ImageOwnership.Proofs.Http.Trace
import ImageOwnership.Proofs.IndexSwap

/-!
The plan of a validation: the manifest of the tag, the manifest of the first platform when the tag
names a list, and the config, each with a token before it where the origin asks for tokens. A validation
gets as far along its plan as its calls succeed.
-/

namespace ImageOwnership

open Http

variable {World : Type}

namespace Exchange

def url (registry : Registry) (image : Image.Reference) (exchange : Exchange) : String :=
  (exchange.purpose.call registry image).url

def body? (exchange : Exchange) : Option (List UInt8) :=
  match exchange.ending with
  | .ok reply => if reply.status = 200 then some reply.body else none
  | .error _ => none

/-- What is found in a body that was delivered for a stage. -/
def delivered? (find : Stage → List UInt8 → Option Image.Manifest) (exchange : Exchange) :
    Option Image.Manifest :=
  match exchange.purpose with
  | .token _ _ => none
  | .document stage _ => exchange.body?.bind (find stage)

section Token

variable (tokenUrl : String) (stage : Stage) (events : List Event) (ending : Except Stop Reply)

@[simp] theorem url_token (registry : Registry) (image : Image.Reference) :
    url registry image ⟨.token tokenUrl stage, events, ending⟩ = tokenUrl := rfl

@[simp] theorem delivered?_token (find : Stage → List UInt8 → Option Image.Manifest) :
    delivered? find ⟨.token tokenUrl stage, events, ending⟩ = none := rfl

end Token

end Exchange

def Stage.tagManifest? : Stage → List UInt8 → Option Image.Manifest
  | .tag, body => (Image.Manifest.read body).toOption
  | _, _ => none

def Stage.platformManifest? : Stage → List UInt8 → Option Image.Manifest
  | .platform _, body => (Image.Manifest.read body).toOption
  | _, _ => none

/-- A body that a validation can go on with. A manifest that counts has to name its config. -/
def Purpose.Accepts : Purpose → List UInt8 → Prop
  | .token _ _, body => ∃ bearer, Token.read body = .ok bearer
  | .document .tag _, body =>
      ∃ manifest, Image.Manifest.read body = .ok manifest ∧
        (manifest.platforms = [] → manifest.config ≠ "")
  | .document (.platform _) _, body =>
      ∃ manifest, Image.Manifest.read body = .ok manifest ∧ manifest.config ≠ ""
  | .document (.config _) _, body => ∃ config, Image.Config.read body = .ok config

def Purpose.isConfig : Purpose → Bool
  | .document (.config _) _ => true
  | _ => false

/-- A call that ends in a reply of success, with a body to go on with. -/
def Exchange.Succeeds (exchange : Exchange) : Prop :=
  ∃ body, exchange.body? = some body ∧ exchange.purpose.Accepts body

namespace Claim.Target

/-- The calls for the document of a stage. Only one origin wants a token first. -/
def fetch (target : Target) (registry : Registry) (stage : Stage) : List String :=
  (if target.origin = Provider.dockerOrigin then [target.settings.tokenUrl] else []) ++
    [stage.url registry target.image]

/-- The calls of a validation, in view of the manifests that were delivered. -/
def plan (target : Target) (registry : Registry) (exchanges : List Exchange) : List String :=
  target.fetch registry .tag ++
    match exchanges.findSome? (Exchange.delivered? Stage.tagManifest?) with
    | none => []
    | some index =>
        match index.platforms with
        | [] => target.fetch registry (.config index.config)
        | digest :: _ =>
            target.fetch registry (.platform digest) ++
              match exchanges.findSome? (Exchange.delivered? Stage.platformManifest?) with
              | none => []
              | some manifest => target.fetch registry (.config manifest.config)

end Claim.Target

/-! ### How far a conversation gets -/

section Progress

variable {transport : Transport World} {registry : Registry} {image : Image.Reference}
  {isOpen : Bool} {world after : World} {exchanges : List Exchange}
  {result : Except Failure Image.Labels}

/-- Without a body the validation is over; with one it goes on from there. -/
theorem Registry.after_cases (registry : Registry) (image : Image.Reference) (exchange : Exchange) :
    (exchange.body? = none ∧
        ∃ failure, registry.after image exchange.purpose exchange.ending = .ended (.error failure)) ∨
      ∃ body, exchange.body? = some body ∧
        registry.after image exchange.purpose exchange.ending =
          registry.receiving image exchange.purpose body := by
  obtain ⟨purpose, events, ending⟩ := exchange
  rcases ending with (⟨_ | _⟩ | _) | reply
  case ok =>
    by_cases success : reply.status = 200
    · exact .inr ⟨reply.body, by simp [Exchange.body?, success], after_success success⟩
    · exact .inl ⟨by simp [Exchange.body?, success], _, after_refused success⟩
  all_goals exact .inl ⟨rfl, _, rfl⟩

theorem Registry.settling_calling_iff {digest : String} :
    (∃ next, registry.settling image digest = .calling next) ↔ digest ≠ "" := by
  obtain ⟨purpose, calling⟩ := registry.entering_calling (.config digest)
  unfold settling
  by_cases empty : digest = ""
  · simp [empty]
  · simp [empty, calling]

theorem Registry.receiving_calling_iff {purpose : Purpose} {body : List UInt8} :
    (∃ next, registry.receiving image purpose body = .calling next) ↔
      purpose.Accepts body ∧ purpose.isConfig = false := by
  cases purpose with
  | token url stage =>
      simp only [receiving, granting, Purpose.Accepts, Purpose.isConfig, and_true]
      cases Token.read body with
      | error failure => simp
      | ok bearer => simp
  | document stage bearer =>
      cases stage with
      | tag =>
          simp only [receiving, reading, decoding, Purpose.Accepts, Purpose.isConfig, and_true]
          cases Image.Manifest.read body with
          | error faults => simp
          | ok manifest =>
              simp only [tagged, Except.ok.injEq, exists_eq_left']
              cases entries : manifest.platforms with
              | nil => simp [settling_calling_iff]
              | cons digest others =>
                  obtain ⟨purpose, calling⟩ := registry.entering_calling (.platform digest)
                  simp [calling]
      | platform digest =>
          simp only [receiving, reading, decoding, Purpose.Accepts, Purpose.isConfig, and_true]
          cases Image.Manifest.read body with
          | error faults => simp
          | ok manifest => simp [settling_calling_iff]
      | config digest =>
          simp only [receiving, reading, decoding, Purpose.isConfig, Bool.true_eq_false, and_false,
            iff_false]
          cases Image.Config.read body with
          | error faults => simp
          | ok config => simp

/-- Another call is due exactly after a call that succeeds and is not the one for the config. -/
theorem Exchange.succeeds_iff {exchange : Exchange} :
    (∃ next, registry.after image exchange.purpose exchange.ending = .calling next) ↔
      exchange.Succeeds ∧ exchange.purpose.isConfig = false := by
  obtain ⟨absent, failure, failed⟩ | ⟨body, present, received⟩ := registry.after_cases image exchange
  · simp [failed, Succeeds, absent]
  · rw [received, Registry.receiving_calling_iff]
    simp [Succeeds, present]

namespace Conversation

theorem nonempty_iff {position : Position}
    (conversation : Conversation transport registry image isOpen position world exchanges result
      after) :
    exchanges ≠ [] ↔ ∃ next, position = .calling next := by
  cases conversation with
  | finished => simp
  | calls _ _ => simp

/-- A conversation is cut exactly at the first call that does not succeed, or after the config. -/
theorem cut {position : Position}
    (conversation : Conversation transport registry image isOpen position world exchanges result
      after)
    {earlier later : List Exchange} {exchange : Exchange}
    (split : exchanges = earlier ++ exchange :: later) :
    later ≠ [] ↔ exchange.Succeeds ∧ exchange.purpose.isConfig = false := by
  induction conversation generalizing earlier with
  | finished =>
      have impossible := congrArg List.length split
      simp at impossible
  | calls _ rest ih =>
      cases earlier with
      | nil =>
          obtain ⟨rfl, rfl⟩ := List.cons.inj split
          rw [rest.nonempty_iff, ← Exchange.succeeds_iff]
      | cons first others => exact ih (List.cons.inj split).2

/-- The calls that are seen are those that begin; what follows them is to call nothing at once. -/
theorem logicalCalls {position : Position}
    (conversation : Conversation transport registry image isOpen position world exchanges result
      after)
    {tail : List Event} (calm : Calm tail) :
    logicalCalls (exchanges.flatMap Exchange.events ++ tail) =
      (exchanges.filter fun exchange => !exchange.events.isEmpty).map (Exchange.url registry image) ++
        logicalCalls tail := by
  induction conversation with
  | finished => rfl
  | @calls purpose world events ending middle exchanges result after course rest ih =>
      -- A call without a reply is the last one, and what comes after it is the calm tail.
      have quiet : Calm (exchanges.flatMap Exchange.events ++ tail) ∨ ∃ reply, ending = .ok reply := by
        cases ending with
        | ok reply => exact .inr ⟨reply, rfl⟩
        | error stop =>
            rw [rest.finished_of_error]
            exact .inl calm
      obtain ⟨rfl, _⟩ | counted := course.logicalCalls quiet
      · simpa using ih
      · have begun : events.isEmpty = false := by
          cases events with
          | nil => simp at counted
          | cons event others => rfl
        rw [ih] at counted
        simp [counted, begun, Exchange.url]

/-- A call that leaves no events is one that was given up before it began. -/
theorem unbegun {position : Position}
    (conversation : Conversation transport registry image isOpen position world exchanges result
      after)
    {exchange : Exchange} (member : exchange ∈ exchanges) (silent : exchange.events = []) :
    exchange.ending = .error (.cancelled .before (exchange.url registry image)) := by
  obtain ⟨_, _, course⟩ := conversation.coursed member
  have calm : Calm [] := trivial
  obtain ⟨_, given⟩ | counted := course.logicalCalls (.inl calm)
  · exact given
  · simp [silent] at counted

theorem finished_nil {result other : Except Failure Image.Labels}
    (conversation : Conversation transport registry image isOpen (.ended other) world exchanges result
      after) : exchanges = [] := by
  cases conversation
  rfl

/-- Only the last call can be given up before it began, and so those that begin come first. -/
theorem begun_prefix {position : Position}
    (conversation : Conversation transport registry image isOpen position world exchanges result
      after) :
    exchanges.filter (fun exchange => !exchange.events.isEmpty) <+: exchanges := by
  induction conversation with
  | finished => exact List.prefix_rfl
  | @calls purpose world events ending middle exchanges result after course rest ih =>
      cases begun : events.isEmpty with
      | false =>
          rw [List.filter_cons_of_pos (by simp [begun]), List.prefix_cons_inj]
          exact ih
      | true =>
          have silent : events = [] := List.isEmpty_iff.mp begun
          have given : ending = .error (.cancelled .before (purpose.call registry image).url) :=
            (Conversation.calls course rest).unbegun (List.mem_cons_self ..) silent
          rw [given] at rest
          rw [rest.finished_nil, List.filter_cons_of_neg (by simp [begun])]
          exact List.nil_prefix

/-- The call for a document either gives no body, and is the last one, or the body is read. -/
theorem document {stage : Stage} {bearer : Option (List CodePoint)}
    (conversation : Conversation transport registry image isOpen (.calling (.document stage bearer))
      world exchanges result after) :
    ∃ exchange rest, exchanges = exchange :: rest ∧
      exchange.url registry image = stage.url registry image ∧
      ((rest = [] ∧ ∀ find, exchange.delivered? find = none) ∨
        ∃ body middle, (∀ find, exchange.delivered? find = find stage body) ∧
          Conversation transport registry image isOpen (registry.reading image stage body) middle rest
            result after) := by
  cases conversation with
  | @calls _ _ events ending middle rest _ _ _ following =>
      refine ⟨⟨.document stage bearer, events, ending⟩, rest, rfl, rfl, ?_⟩
      obtain ⟨absent, failure, failed⟩ | ⟨body, present, received⟩ :=
        registry.after_cases image ⟨.document stage bearer, events, ending⟩
      · rw [failed] at following
        exact .inl ⟨following.finished_nil, fun find => by simp [Exchange.delivered?, absent]⟩
      · rw [received] at following
        exact .inr ⟨body, middle, fun find => by simp [Exchange.delivered?, present], following⟩

end Conversation

end Progress

section Plan

variable {transport : Transport World} {registry : Registry} {target : Claim.Target}
  {isOpen : Bool} {world after : World} {exchanges : List Exchange}
  {result : Except Failure Image.Labels}

namespace Conversation

/-- The calls for the document of a stage are made in order; they are the last ones, or the body of the
document is read. -/
theorem fetched (authorized : registry.authorization = .forOrigin target.origin target.settings)
    {stage : Stage}
    (conversation : Conversation transport registry target.image isOpen (registry.entering stage)
      world exchanges result after) :
    (exchanges.map (Exchange.url registry target.image) <+: target.fetch registry stage ∧
        ∀ find, exchanges.findSome? (Exchange.delivered? find) = none) ∨
      ∃ visit body middle rest, exchanges = visit ++ rest ∧
        visit.map (Exchange.url registry target.image) = target.fetch registry stage ∧
        (∀ find, visit.findSome? (Exchange.delivered? find) = find stage body) ∧
        Conversation transport registry target.image isOpen
          (registry.reading target.image stage body) middle rest result after := by
  unfold Registry.entering at conversation
  unfold Authorization.forOrigin at authorized
  by_cases guarded : target.origin = Provider.dockerOrigin
  · rw [if_pos guarded] at authorized
    simp only [authorized] at conversation
    have calls : target.fetch registry stage =
        [target.settings.tokenUrl, stage.url registry target.image] := by
      simp [Claim.Target.fetch, guarded]
    rw [calls]
    cases conversation with
    | @calls _ _ events ending middle exchanges _ _ _ following =>
        obtain ⟨absent, failure, failed⟩ | ⟨grant, present, received⟩ :=
          registry.after_cases target.image ⟨.token target.settings.tokenUrl stage, events, ending⟩
        · rw [failed] at following
          rw [following.finished_nil]
          exact .inl ⟨by simp, fun find => rfl⟩
        · rw [received] at following
          simp only [Registry.receiving, Registry.granting] at following
          cases readable : Token.read grant with
          | error failure =>
              rw [readable] at following
              rw [following.finished_nil]
              exact .inl ⟨by simp, fun find => rfl⟩
          | ok bearer =>
              rw [readable] at following
              obtain ⟨exchange, rest, rfl, asked, ⟨rfl, nothing⟩ | ⟨body, later, found, reading⟩⟩ :=
                following.document
              · exact .inl ⟨by simp [asked], fun find => by simp [nothing]⟩
              · refine .inr ⟨[⟨.token target.settings.tokenUrl stage, events, ending⟩, exchange], body,
                  later, rest, rfl, by simp [asked], fun find => ?_, reading⟩
                rw [List.findSome?_cons_of_isNone rfl, List.findSome?_singleton, found]
  · rw [if_neg guarded] at authorized
    simp only [authorized] at conversation
    have calls : target.fetch registry stage = [stage.url registry target.image] := by
      simp [Claim.Target.fetch, guarded]
    rw [calls]
    obtain ⟨exchange, rest, rfl, asked, ⟨rfl, nothing⟩ | ⟨body, later, found, reading⟩⟩ :=
      conversation.document
    · exact .inl ⟨by simp [asked], fun find => by simp [nothing]⟩
    · exact .inr ⟨[exchange], body, later, rest, rfl, by simp [asked],
        fun find => by simp [found], reading⟩

theorem planned_config (authorized : registry.authorization = .forOrigin target.origin target.settings)
    {digest : String}
    (conversation : Conversation transport registry target.image isOpen
      (registry.settling target.image digest) world exchanges result after) :
    exchanges.map (Exchange.url registry target.image) <+: target.fetch registry (.config digest) := by
  unfold Registry.settling at conversation
  split at conversation
  · rw [conversation.finished_nil]
    exact List.nil_prefix
  · obtain ⟨cut, _⟩ | ⟨visit, body, middle, rest, rfl, calls, _, reading⟩ :=
      conversation.fetched authorized
    · exact cut
    · have last : rest = [] := by
        simp only [Registry.reading, Registry.decoding] at reading
        split at reading
        · exact reading.finished_nil
        · exact reading.finished_nil
      refine ⟨[], ?_⟩
      rw [last, List.append_nil, List.append_nil, calls]

theorem planned_platform
    (authorized : registry.authorization = .forOrigin target.origin target.settings) {digest : String}
    (conversation : Conversation transport registry target.image isOpen
      (registry.entering (.platform digest)) world exchanges result after) :
    exchanges.map (Exchange.url registry target.image) <+:
      target.fetch registry (.platform digest) ++
        match exchanges.findSome? (Exchange.delivered? Stage.platformManifest?) with
        | none => []
        | some manifest => target.fetch registry (.config manifest.config) := by
  obtain ⟨cut, nothing⟩ | ⟨visit, body, middle, rest, rfl, calls, found, reading⟩ :=
    conversation.fetched authorized
  · rw [nothing]
    simpa using cut
  · rw [List.map_append, calls, List.prefix_append_right_inj]
    simp only [List.findSome?_append, found, Stage.platformManifest?]
    simp only [Registry.reading, Registry.decoding] at reading
    cases decoded : Image.Manifest.read body with
    | error faults =>
        rw [decoded] at reading
        rw [reading.finished_nil]
        exact List.nil_prefix
    | ok manifest =>
        rw [decoded] at reading
        exact reading.planned_config authorized

/-- What a conversation asks for is the beginning of its plan. -/
theorem planned (authorized : registry.authorization = .forOrigin target.origin target.settings)
    (conversation : Conversation transport registry target.image isOpen (registry.entering .tag)
      world exchanges result after) :
    exchanges.map (Exchange.url registry target.image) <+: target.plan registry exchanges := by
  unfold Claim.Target.plan
  obtain ⟨cut, nothing⟩ | ⟨visit, body, middle, rest, rfl, calls, found, reading⟩ :=
    conversation.fetched authorized
  · rw [nothing]
    simpa using cut
  · rw [List.map_append, calls, List.prefix_append_right_inj]
    simp only [List.findSome?_append, found, Stage.tagManifest?, Stage.platformManifest?,
      Option.none_or]
    simp only [Registry.reading, Registry.decoding] at reading
    cases decoded : Image.Manifest.read body with
    | error faults =>
        rw [decoded] at reading
        rw [reading.finished_nil]
        exact List.nil_prefix
    | ok index =>
        rw [decoded] at reading
        simp only [Registry.tagged] at reading
        simp only [Except.toOption, Option.some_or]
        cases entries : index.platforms with
        | nil =>
            rw [entries] at reading
            exact reading.planned_config authorized
        | cons digest others =>
            rw [entries] at reading
            exact planned_platform authorized reading

end Conversation

end Plan

/-- What it means for the exchanges of a validation, and for the events that they leave, to keep to the
plan. -/
structure FollowsPlan (target : Claim.Target) (registry : Registry) (exchanges : List Exchange)
    (events : List Event) : Prop where
  /-- What is called, without repetitions, is what the exchanges that begin ask for. -/
  called : logicalCalls events =
    (exchanges.filter fun exchange => !exchange.events.isEmpty).map
      (Exchange.url registry target.image)
  unbegun : ∀ exchange ∈ exchanges, exchange.events = [] →
    exchange.ending = .error (.cancelled .before (exchange.url registry target.image))
  planned : exchanges.map (Exchange.url registry target.image) <+: target.plan registry exchanges
  /-- What is called is the beginning of the plan. -/
  followed : logicalCalls events <+: target.plan registry exchanges
  /-- Another exchange follows exactly one that succeeds, unless that is the one for the config. -/
  cut : ∀ earlier exchange later, exchanges = earlier ++ exchange :: later →
    (later ≠ [] ↔ exchange.Succeeds ∧ exchange.purpose.isConfig = false)
  /-- No request goes out but in an exchange. -/
  sent : ∀ request, .sent request ∈ events → ∃ exchange ∈ exchanges, .sent request ∈ exchange.events
  carried : ∀ exchange ∈ exchanges, ∀ stage bearer, exchange.purpose = .document stage bearer →
    ∀ request, .sent request ∈ exchange.events →
      request.Carries stage.accept target.settings.userAgent target.settings.timeout

namespace Registry

theorem logicalCalls_opening (registry : Registry) (events : List Event) :
    logicalCalls (registry.opening ++ events) = logicalCalls events := by
  unfold opening
  split <;> rfl

theorem calm_closing (registry : Registry) (isOpen : Bool) : Calm (registry.closing isOpen) := by
  unfold closing
  split <;> trivial

theorem logicalCalls_closing (registry : Registry) (isOpen : Bool) :
    logicalCalls (registry.closing isOpen) = [] := by
  unfold closing
  split <;> rfl

theorem sent_notMem_opening (registry : Registry) (request : Request) :
    .sent request ∉ registry.opening := by
  unfold opening
  split <;> simp

theorem sent_notMem_closing (registry : Registry) (isOpen : Bool) (request : Request) :
    .sent request ∉ registry.closing isOpen := by
  unfold closing
  split <;> simp

theorem exchange_of_sent (registry : Registry) {isOpen : Bool} {exchanges : List Exchange}
    {request : Request}
    (sent : .sent request ∈
      registry.opening ++ exchanges.flatMap Exchange.events ++ registry.closing isOpen) :
    ∃ exchange ∈ exchanges, .sent request ∈ exchange.events := by
  obtain before | closing := List.mem_append.mp sent
  · obtain opening | made := List.mem_append.mp before
    · exact absurd opening (registry.sent_notMem_opening request)
    · exact List.mem_flatMap.mp made
  · exact absurd closing (registry.sent_notMem_closing isOpen request)

end Registry

namespace Claim

variable {claim : Claim} {target : Target} {registry : Registry}

theorem called_whole {transport : Transport World} {image : Image.Reference} {isOpen : Bool}
    {position : Position} {world after : World} {exchanges : List Exchange}
    {fetched : Except Failure Image.Labels}
    (conversation : Conversation transport registry image isOpen position world exchanges fetched
      after) :
    logicalCalls (registry.opening ++ exchanges.flatMap Exchange.events ++ registry.closing isOpen) =
      (exchanges.filter fun exchange => !exchange.events.isEmpty).map
        (Exchange.url registry image) := by
  have counted := conversation.logicalCalls (registry.calm_closing isOpen)
  rw [List.append_assoc, registry.logicalCalls_opening, counted, registry.logicalCalls_closing,
    List.append_nil]

theorem followsPlan {transport : Transport World} {isOpen : Bool} {world after : World}
    {exchanges : List Exchange} {fetched : Except Failure Image.Labels}
    (made : claim.made target = .ok registry)
    (conversation : Conversation transport registry target.image isOpen (registry.entering .tag) world
      exchanges fetched after) :
    FollowsPlan target registry exchanges
      (registry.opening ++ exchanges.flatMap Exchange.events ++ registry.closing isOpen) where
  called := called_whole conversation
  unbegun := fun _ member silent => conversation.unbegun member silent
  planned := conversation.planned (made_ok made).1
  followed := by
    rw [called_whole conversation]
    exact (conversation.begun_prefix.map _).trans (conversation.planned (made_ok made).1)
  cut := fun _ _ _ split => conversation.cut split
  sent := fun _ member => registry.exchange_of_sent member
  carried := by
    intro exchange member stage bearer asked request sent
    rw [← (made_ok made).2]
    exact conversation.carries member asked sent

/-- Every validation keeps to its plan, whatever happens on the way. It asks for nothing when it has no
target or no client; and it goes the same way to the same result when the list that the tag names is
swapped for another one with the same first entry. -/
theorem validateImage_followsPlan (claim : Claim) (transport : Transport World)
    (environment : Settings.Environment) (run : Run World Log.Entry) :
    ((∀ target registry, claim.target environment = .ok target →
          claim.made target ≠ .ok registry) ∧
        (Action.perform (claim.validateImage transport environment) run).2.trace = run.trace) ∨
      ∃ target registry exchanges fetched world events,
        claim.target environment = .ok target ∧ claim.made target = .ok registry ∧
        Conversation transport registry target.image run.isOpen (registry.entering .tag) run.world
          exchanges fetched world ∧
        (Action.perform (claim.validateImage transport environment) run).2.trace =
          run.trace ++ events ∧
        FollowsPlan target registry exchanges events ∧
        ∀ other, transport.Alike (IndexSwap registry.client) other →
          (Action.perform (claim.validateImage other environment) run).1 =
              (Action.perform (claim.validateImage transport environment) run).1 ∧
            (Action.perform (claim.validateImage other environment) run).2.trace =
              (Action.perform (claim.validateImage transport environment) run).2.trace := by
  cases settled : claim.target environment with
  | error failure =>
      refine .inl ⟨by simp, ?_⟩
      rw [perform_validateImage_unsettled transport settled]
  | ok target =>
      cases made : claim.made target with
      | error failure =>
          refine .inl ⟨?_, ?_⟩
          · intro given registry same
            cases same
            simp [made]
          · rw [perform_validateImage_unmade transport settled made]
            rfl
      | ok registry =>
          obtain ⟨exchanges, fetched, world, notes, conversation, performed⟩ :=
            perform_validateImage transport settled made run
          refine .inr ⟨target, registry, exchanges, fetched, world, _, rfl, made, conversation, ?_,
            followsPlan made conversation, fun other alike =>
              validateImage_alike settled made alike run⟩
          rw [performed]
          simp [Registry.left, List.append_assoc]

end Claim

end ImageOwnership
