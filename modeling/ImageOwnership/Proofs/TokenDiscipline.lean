import ImageOwnership.Proofs.Destination
import ImageOwnership.Proofs.Http.Authorization
import ImageOwnership.Proofs.RequestPlan

/-!
What becomes of tokens. Where tokens are handed out, each document has one of its own, which the call
right before it was granted; it goes to the origin that asks for it and, through redirects and
repetitions, nowhere else. Elsewhere there are none, and where they would come from makes no difference.
-/

namespace ImageOwnership

open Http

variable {World : Type}

/-! ### Grants -/

theorem Token.read_eq_ok_iff {body : List UInt8} {token : List CodePoint} :
    Token.read body = .ok token ↔
      ∃ members, Json.load body = .ok (.object members) ∧
        Token.text (Json.lastNamed (CodePoint.ofString "token") members) = token := by
  unfold Token.read
  split
  · rename_i undecodable
    simp [undecodable]
  · rename_i malformed
    simp [malformed]
  · rename_i digits long
    simp [long]
  · rename_i container deep
    simp [deep]
  · rename_i members loaded
    simp [loaded]
  · rename_i value other loaded
    simp only [loaded, reduceCtorEq, false_iff, not_exists, not_and, Except.ok.injEq]
    intro members same
    exact absurd same (other members)

/-- A call for the token of a stage that was answered with success and an object, and the token that the
object names. -/
structure Exchange.Grants (exchange : Exchange) (url : String) (stage : Stage)
    (token : List CodePoint) : Prop where
  asked : exchange.purpose = .token url stage
  answered : ∃ reply members, exchange.ending = .ok reply ∧ reply.status = 200 ∧
    Json.load reply.body = .ok (.object members) ∧
    Token.text (Json.lastNamed (CodePoint.ofString "token") members) = token

theorem Exchange.body?_eq_some {exchange : Exchange} {body : List UInt8}
    (present : exchange.body? = some body) :
    ∃ reply, exchange.ending = .ok reply ∧ reply.status = 200 ∧ reply.body = body := by
  unfold Exchange.body? at present
  split at present
  · rename_i reply ended
    split at present
    · exact ⟨reply, ended, ‹_›, Option.some.inj present⟩
    · cases present
  · cases present

/-- What the exchanges before a call have to do with it. A token is only asked for where the registry
wants one, and the token of a document is what the last exchange was granted for its stage. -/
def Position.Follows (registry : Registry) (previous : List Exchange) : Position → Prop
  | .calling (.token url _) => registry.authorization = .token url
  | .calling (.document _ none) => registry.authorization = .anonymous
  | .calling (.document stage (some token)) =>
      ∃ url earlier grant, registry.authorization = .token url ∧ previous = earlier ++ [grant] ∧
        grant.Grants url stage token
  | .ended _ => True

section Follows

variable {registry : Registry} {image : Image.Reference} {previous : List Exchange}

theorem Registry.follows_entering (registry : Registry) (previous : List Exchange) (stage : Stage) :
    (registry.entering stage).Follows registry previous := by
  unfold Registry.entering
  cases authorized : registry.authorization with
  | anonymous => exact authorized
  | token url => exact authorized

theorem Registry.follows_settling (registry : Registry) (previous : List Exchange) (digest : String) :
    (registry.settling image digest).Follows registry previous := by
  unfold Registry.settling
  split
  · trivial
  · exact registry.follows_entering previous _

theorem Registry.follows_decoding {α : Type} {stage : Stage} {decode : List UInt8 → Document.Decoded α}
    {onward : α → Position} (follows : ∀ document, (onward document).Follows registry previous)
    (body : List UInt8) :
    (Registry.decoding image stage decode onward body).Follows registry previous := by
  unfold Registry.decoding
  split
  · trivial
  · exact follows _

theorem Registry.follows_reading (registry : Registry) (previous : List Exchange) (stage : Stage)
    (body : List UInt8) : (registry.reading image stage body).Follows registry previous := by
  cases stage with
  | tag =>
      refine Registry.follows_decoding (fun manifest => ?_) body
      unfold Registry.tagged
      split
      · exact registry.follows_settling previous _
      · exact registry.follows_entering previous _
  | platform digest =>
      exact Registry.follows_decoding (fun manifest => registry.follows_settling previous _) body
  | config digest =>
      refine Registry.follows_decoding (fun config => ?_) body
      trivial

/-- A token that was granted is used at once; any other call begins anew. -/
theorem Registry.follows_after (image : Image.Reference) (exchange : Exchange)
    (follows : (Position.calling exchange.purpose).Follows registry previous) :
    (registry.after image exchange.purpose exchange.ending).Follows registry
      (previous ++ [exchange]) := by
  obtain ⟨_, _, failed⟩ | ⟨body, present, received⟩ := registry.after_cases image exchange
  · rw [failed]
    trivial
  · rw [received]
    cases asked : exchange.purpose with
    | document stage bearer => exact registry.follows_reading _ stage body
    | token url stage =>
        rw [asked] at follows
        simp only [Registry.receiving, Registry.granting]
        cases granted : Token.read body with
        | error failure => trivial
        | ok token =>
            obtain ⟨reply, ended, success, rfl⟩ := Exchange.body?_eq_some present
            obtain ⟨members, loaded, named⟩ := Token.read_eq_ok_iff.mp granted
            exact ⟨url, previous, exchange, follows, rfl, asked, reply, members, ended, success,
              loaded, named⟩

theorem Conversation.follows {transport : Transport World} {isOpen : Bool} {position : Position}
    {world after : World} {exchanges earlier later : List Exchange} {exchange : Exchange}
    {result : Except Failure Image.Labels}
    (conversation : Conversation transport registry image isOpen position world exchanges result after)
    (start : position.Follows registry previous) (split : exchanges = earlier ++ exchange :: later) :
    (Position.calling exchange.purpose).Follows registry (previous ++ earlier) := by
  -- What is due at a position depends on the last exchange before it, which changes with each call.
  induction conversation generalizing previous earlier with
  | finished =>
      have impossible := congrArg List.length split
      simp at impossible
  | @calls purpose world events ending middle exchanges result after course rest ih =>
      cases earlier with
      | nil =>
          obtain ⟨rfl, _⟩ := List.cons.inj split
          rw [List.append_nil]
          exact start
      | cons first others =>
          obtain ⟨rfl, tail⟩ := List.cons.inj split
          have next := Registry.follows_after image ⟨purpose, events, ending⟩ start
          have found := ih next tail
          rwa [List.append_assoc, List.singleton_append] at found

end Follows

/-! ### Bearers -/

namespace Http.Request

/-- A request that is authorized by a token. -/
def Bears (request : Request) (token : List CodePoint) : Prop :=
  ∃ value, request.authorization? = some value ∧
    CodePoint.ofString value = CodePoint.ofString "Bearer " ++ token

/-- A request that is authorized by some token. -/
def IsBearer (request : Request) : Prop :=
  ∃ value, request.authorization? = some value ∧ "Bearer ".toList <+: value.toList

theorem not_isBearer_of_none {request : Request} (absent : request.authorization? = none) :
    ¬ request.IsBearer := by
  rintro ⟨value, present, _⟩
  rw [absent] at present
  cases present

theorem not_isBearer_of_basic {request : Request} {credentials : String × String}
    (basic : request.authorization? = some (basicCredentials credentials)) : ¬ request.IsBearer := by
  rintro ⟨value, present, bearer⟩
  rw [basic] at present
  cases present
  simp [basicCredentials] at bearer

end Http.Request

section Calls

variable {registry : Registry} {image : Image.Reference} {client : Client} {request : Request}
  {names : Url.HostNames} {cookies : Cookies}

/-- By itself a client without an authorization does not authorize what it is called for. -/
theorem Purpose.authorization_of_request {purpose : Purpose}
    (plain : client.headers.get? "authorization" = none)
    (written : (purpose.call registry image).request names cookies client = .ok request) :
    (∃ stage token value, purpose = .document stage (some token) ∧
        request.authorization? = some value ∧
        CodePoint.ofString value = CodePoint.ofString "Bearer " ++ token) ∨
      (∀ stage token, purpose ≠ .document stage (some token)) ∧ request.authorization? = none := by
  obtain ⟨given, headers, _, kept⟩ := Call.request_headers written
  have here : request.authorization? = (client.headers.update given).get? "authorization" :=
    kept "authorization" (by decide) (by decide)
  cases purpose with
  | token url stage =>
      cases headers
      refine .inr ⟨by simp, here.trans ?_⟩
      exact (congrArg (Headers.get? · "authorization") (Headers.update_nil client.headers)).trans plain
  | document stage bearer =>
      obtain ⟨rfl, rfl⟩ | ⟨token, value, rfl, ascii, rfl⟩ := Headers.write_requestHeaders_cases headers
      · refine .inr ⟨by simp, ?_⟩
        rw [here, Headers.get?_update_of_none (by simp [Headers.get?]), plain]
      · refine .inl ⟨stage, token, value, rfl, ?_, ofString_ascii ascii⟩
        rw [here]
        exact Headers.get?_update (by simp [Headers.get?])

theorem Http.Client.unauthorized_ofUserAgent {userAgent : String}
    (made : Client.ofUserAgent userAgent = .ok client) :
    client.headers.get? "authorization" = none := by
  rw [Client.headers_ofUserAgent made]
  simp [Headers.get?]

theorem Authorization.forOrigin_eq_token_iff {origin url : String} {settings : Settings} :
    Authorization.forOrigin origin settings = .token url ↔
      origin = Provider.dockerOrigin ∧ settings.tokenUrl = url := by
  unfold Authorization.forOrigin
  split
  · rename_i guarded
    simp [guarded]
  · rename_i unguarded
    simp [unguarded]

theorem Authorization.forOrigin_eq_anonymous_iff {origin : String} {settings : Settings} :
    Authorization.forOrigin origin settings = .anonymous ↔ origin ≠ Provider.dockerOrigin := by
  unfold Authorization.forOrigin
  split
  · rename_i guarded
    simp [guarded]
  · rename_i unguarded
    simp [unguarded]

theorem Provider.dockerOrigin_bare : IsBare dockerOrigin :=
  publicTable_bare ("https://docker.io", dockerOrigin) List.mem_cons_self

end Calls

/-! ### Validations -/

/-- A request to the origin that asks for tokens. -/
structure Http.Request.IsToDocker (request : Request) : Prop where
  scheme : request.url.scheme = "https"
  host : request.url.host = "registry-1.docker.io"
  port : Redirect.effectivePort request.url = some 443

/-- What it means for the exchanges of a validation, and for the events that they leave, to keep tokens
where they belong. -/
structure DisciplinesTokens (target : Claim.Target) (exchanges : List Exchange)
    (events : List Event) : Prop where
  /-- No request goes out but in an exchange. -/
  sent : ∀ request, .sent request ∈ events → ∃ exchange ∈ exchanges, .sent request ∈ exchange.events
  /-- Each document has a token that the exchange right before it was granted for the document. -/
  fresh : target.origin = Provider.dockerOrigin →
    ∀ earlier exchange later stage bearer, exchanges = earlier ++ exchange :: later →
      exchange.purpose = .document stage bearer →
      ∃ before grant token, earlier = before ++ [grant] ∧ bearer = some token ∧
        grant.Grants target.settings.tokenUrl stage token
  /-- Each attempt at a document begins with its token. -/
  borne : ∀ exchange ∈ exchanges, ∀ stage token, exchange.purpose = .document stage (some token) →
    ∀ request ∈ issued exchange.events, request.Bears token
  /-- Only the requests for a document are authorized by a token, by its own, and only at the origin
  that asks for it. -/
  confined : ∀ exchange ∈ exchanges, ∀ request, .sent request ∈ exchange.events → request.IsBearer →
    ∃ stage token, exchange.purpose = .document stage (some token) ∧ request.Bears token ∧
      request.IsToDocker
  /-- Elsewhere no token is asked for, and none is used. -/
  unguarded : target.origin ≠ Provider.dockerOrigin →
    ∀ exchange ∈ exchanges, ∃ stage, exchange.purpose = .document stage none

namespace Claim

variable {claim : Claim} {transport : Transport World}
  {environment : Settings.Environment} {run : Run World Log.Entry} {target : Target}
  {registry : Registry} {exchanges : List Exchange} {exchange : Exchange} {request : Request}
  {stage : Stage} {token : List CodePoint}

theorem unauthorized_of_made
    (plain : ∀ client, claim.client = some client → client.headers.get? "authorization" = none)
    (made : claim.made target = .ok registry) : registry.client.headers.get? "authorization" = none := by
  obtain ⟨client, owns, rfl, given | ⟨_, written⟩⟩ := made_atOrigin made
  · exact plain client given
  · exact Client.unauthorized_ofUserAgent written

namespace Exchanged

theorem follows (exchanged : claim.Exchanged transport environment run target registry exchanges)
    {earlier later : List Exchange} (split : exchanges = earlier ++ exchange :: later) :
    (Position.calling exchange.purpose).Follows registry earlier := by
  obtain ⟨_, _, _, conversation, _⟩ := exchanged.concluded
  have whole := conversation.follows (registry.follows_entering [] .tag) split
  rwa [List.nil_append] at whole

theorem guarded_of_token
    (exchanged : claim.Exchanged transport environment run target registry exchanges)
    (member : exchange ∈ exchanges) (asked : exchange.purpose = .document stage (some token)) :
    target.origin = Provider.dockerOrigin := by
  obtain ⟨earlier, later, split⟩ := List.append_of_mem member
  have follows := exchanged.follows split
  rw [asked] at follows
  obtain ⟨url, _, _, authorized, _, _⟩ := follows
  rw [(made_ok exchanged.made).1] at authorized
  exact (Authorization.forOrigin_eq_token_iff.mp authorized).1

/-- The call for a document with a token means a request without credentials, to the origin that asks
for the token. -/
theorem first_of_token
    (exchanged : claim.Exchanged transport environment run target registry exchanges)
    (member : exchange ∈ exchanges) (asked : exchange.purpose = .document stage (some token))
    {names : Url.HostNames} {cookies : Cookies}
    (written : (exchange.purpose.call registry target.image).request names cookies registry.client =
      .ok request) :
    request.IsToDocker ∧ request.withCredentials = request := by
  have guarded := exchanged.guarded_of_token member asked
  have origin : registry.origin = Provider.dockerOrigin := by
    rw [made_origin exchanged.made, guarded, Provider.dockerOrigin_bare.unslashed]
  have bare := Provider.dockerOrigin_bare
  rw [← origin] at bare
  rw [asked] at written
  obtain ⟨_, same⟩ := bare.address_of_request written
  refine ⟨⟨same.scheme, ?_, ?_⟩, Request.withCredentials_of_anonymous same.userinfo⟩
  · rw [same.host, origin]
    decide +kernel
  · simp [Redirect.effectivePort, same.port, same.scheme, Provider.secure]

theorem borne (exchanged : claim.Exchanged transport environment run target registry exchanges)
    (plain : registry.client.headers.get? "authorization" = none) (member : exchange ∈ exchanges)
    (asked : exchange.purpose = .document stage (some token))
    (begun : request ∈ Http.issued exchange.events) : request.Bears token := by
  obtain ⟨_, first, written, rfl⟩ := exchanged.issued member begun
  rw [(exchanged.first_of_token member asked written).2]
  obtain ⟨_, _, value, same, present, text⟩ | ⟨other, _⟩ :=
    Purpose.authorization_of_request plain written
  · rw [asked] at same
    cases same
    exact ⟨value, present, text⟩
  · exact absurd asked (other stage token)

theorem confined (exchanged : claim.Exchanged transport environment run target registry exchanges)
    (plain : registry.client.headers.get? "authorization" = none) (member : exchange ∈ exchanges)
    (sent : .sent request ∈ exchange.events) (bearer : request.IsBearer) :
    ∃ stage token, exchange.purpose = .document stage (some token) ∧ request.Bears token ∧
      request.IsToDocker := by
  obtain ⟨_, _, course⟩ := exchanged.coursed member
  -- The token is either gone by now, or it is the one that the call began with, at the same origin.
  obtain ⟨_, first, written, gone | ⟨same, near⟩⟩ := course.entrusted sent
  · exact absurd bearer (Request.not_isBearer_of_none gone)
  · obtain ⟨stage, token, value, asked, present, text⟩ | ⟨_, absent⟩ :=
      Purpose.authorization_of_request plain written
    · obtain ⟨home, unchanged⟩ := exchanged.first_of_token member asked written
      rw [unchanged] at same near
      have secure : first.url.scheme ≠ "http" := by
        rw [home.scheme]
        decide
      have origin := near secure
      have read : transport.names.read first.url.host.toList = .ok "registry-1.docker.io".toList := by
        rw [home.host]
        rfl
      exact ⟨stage, token, asked, ⟨value, same.trans present, text⟩,
        origin.scheme.symm.trans home.scheme, origin.host_eq read (by decide +kernel),
        origin.port.symm.trans home.port⟩
    · obtain kept | basic := first.authorization?_withCredentials
      · exact absurd bearer (Request.not_isBearer_of_none (same.trans (kept.trans absent)))
      · exact absurd bearer (Request.not_isBearer_of_basic (same.trans basic))

theorem fresh (exchanged : claim.Exchanged transport environment run target registry exchanges)
    (guarded : target.origin = Provider.dockerOrigin) {earlier later : List Exchange}
    {bearer : Option (List CodePoint)} (split : exchanges = earlier ++ exchange :: later)
    (asked : exchange.purpose = .document stage bearer) :
    ∃ before grant token, earlier = before ++ [grant] ∧ bearer = some token ∧
      grant.Grants target.settings.tokenUrl stage token := by
  have follows := exchanged.follows split
  rw [asked] at follows
  cases bearer with
  | none =>
      have authorized : registry.authorization = .anonymous := follows
      rw [(made_ok exchanged.made).1] at authorized
      exact absurd guarded (Authorization.forOrigin_eq_anonymous_iff.mp authorized)
  | some token =>
      obtain ⟨url, before, grant, authorized, last, grants⟩ := follows
      rw [(made_ok exchanged.made).1] at authorized
      obtain ⟨_, rfl⟩ := Authorization.forOrigin_eq_token_iff.mp authorized
      exact ⟨before, grant, token, last, rfl, grants⟩

theorem unguarded (exchanged : claim.Exchanged transport environment run target registry exchanges)
    (elsewhere : target.origin ≠ Provider.dockerOrigin) (member : exchange ∈ exchanges) :
    ∃ stage, exchange.purpose = .document stage none := by
  have anonymous : registry.authorization = .anonymous := by
    rw [(made_ok exchanged.made).1]
    exact Authorization.forOrigin_eq_anonymous_iff.mpr elsewhere
  obtain ⟨earlier, later, split⟩ := List.append_of_mem member
  have follows := exchanged.follows split
  cases asked : exchange.purpose with
  | token url stage =>
      rw [asked] at follows
      have authorized : registry.authorization = .token url := follows
      rw [anonymous] at authorized
      cases authorized
  | document stage bearer =>
      cases bearer with
      | none => exact ⟨stage, rfl⟩
      | some token => exact absurd (exchanged.guarded_of_token member asked) elsewhere

end Exchanged

theorem disciplinesTokens
    (plain : ∀ client, claim.client = some client → client.headers.get? "authorization" = none)
    (exchanged : claim.Exchanged transport environment run target registry exchanges) :
    DisciplinesTokens target exchanges
      (registry.opening ++ exchanges.flatMap Exchange.events ++ registry.closing run.isOpen) where
  sent := fun _ member => registry.exchange_of_sent member
  fresh := fun guarded _ _ _ _ _ split asked => exchanged.fresh guarded split asked
  borne := fun _ member _ _ asked _ begun =>
    exchanged.borne (unauthorized_of_made plain exchanged.made) member asked begun
  confined := fun _ member _ sent bearer =>
    exchanged.confined (unauthorized_of_made plain exchanged.made) member sent bearer
  unguarded := fun elsewhere _ member => exchanged.unguarded elsewhere member

/-! ### Another token service -/

def Target.withTokenUrl (target : Target) (url : String) : Target :=
  { target with settings := { target.settings with tokenUrl := url } }

end Claim

def Registry.withTokenUrl (registry : Registry) (url : String) : Registry :=
  { registry with settings := { registry.settings with tokenUrl := url } }

namespace Claim

section TokenUrl

variable {claim other : Claim} {environment away : Settings.Environment} {target : Target}

theorem fetchLabels_withTokenUrl (transport : Transport World) (registry : Registry) (url : String)
    (image : Image.Reference) :
    fetchLabels transport (registry.withTokenUrl url) image =
      fetchLabels transport registry image := rfl

theorem registry_withTokenUrl (client : other.client = claim.client)
    (unguarded : target.origin ≠ Provider.dockerOrigin) (url : String) :
    (other.registry (target.withTokenUrl url) : Registry.Action World Registry) = (do
      let registry ← claim.registry target
      return registry.withTokenUrl url) := by
  have anonymous (settings : Settings) :
      Authorization.forOrigin target.origin settings = .anonymous :=
    Authorization.forOrigin_eq_anonymous_iff.mpr unguarded
  have origin : (target.withTokenUrl url).origin = target.origin := rfl
  unfold registry
  rw [client, origin, anonymous, anonymous]
  cases claim.client with
  | some given => rfl
  | none =>
      simp only [bind_assoc, pure_bind]
      rfl

theorem judge_withTokenUrl (transport : Transport World) (owner : other.owner = claim.owner)
    (client : other.client = claim.client) (unguarded : target.origin ≠ Provider.dockerOrigin)
    (url : String) :
    other.judge transport (target.withTokenUrl url) = claim.judge transport target := by
  unfold judge
  rw [registry_withTokenUrl client unguarded, owner]
  simp only [bind_assoc, pure_bind, fetchLabels_withTokenUrl]
  rfl

theorem conclude_withTokenUrl (url : String) (failure : Failure) :
    (conclude (target.withTokenUrl url) failure : Registry.Action World Unit) =
      conclude target failure := by
  cases failure <;> rfl

theorem validateImage_withTokenUrl (transport : Transport World)
    (settled : claim.target environment = .ok target) (owner : other.owner = claim.owner)
    (client : other.client = claim.client) (unguarded : target.origin ≠ Provider.dockerOrigin)
    {url : String} (resettled : other.target away = .ok (target.withTokenUrl url)) :
    other.validateImage transport away = claim.validateImage transport environment := by
  have ready (target : Target) :
      (Action.ofExcept (.ok target) : Registry.Action World Target) = pure target := rfl
  unfold validateImage
  rw [settled, resettled, ready, ready]
  simp only [pure_bind, judge_withTokenUrl transport owner client unguarded, conclude_withTokenUrl,
    owner]
  rfl

end TokenUrl

/-- Every validation keeps its tokens where they belong, whatever happens on the way, unless the client
of the caller has an authorization of its own. At an origin that asks for no tokens it is the same for
every token service. -/
theorem validateImage_disciplinesTokens (claim : Claim)
    (plain : ∀ client, claim.client = some client → client.headers.get? "authorization" = none)
    (transport : Transport World) (environment : Settings.Environment) (run : Run World Log.Entry) :
    ((Action.perform (claim.validateImage transport environment) run).2.trace = run.trace ∨
      ∃ target registry exchanges,
        claim.Exchanged transport environment run target registry exchanges ∧
        DisciplinesTokens target exchanges
          (registry.opening ++ exchanges.flatMap Exchange.events ++ registry.closing run.isOpen)) ∧
      ∀ target, claim.target environment = .ok target → target.origin ≠ Provider.dockerOrigin →
        ∀ (other : Claim) (away : Settings.Environment) (url : String),
          other.target away = .ok (target.withTokenUrl url) → other.owner = claim.owner →
          other.client = claim.client →
          Action.perform (other.validateImage transport away) run =
            Action.perform (claim.validateImage transport environment) run := by
  refine ⟨?_, ?_⟩
  · obtain silent | ⟨target, registry, exchanges, exchanged⟩ :=
      claim.silent_or_exchanged transport environment run
    · exact .inl silent
    · exact .inr ⟨target, registry, exchanges, exchanged, disciplinesTokens plain exchanged⟩
  · intro target settled unguarded other away url resettled owner client
    rw [validateImage_withTokenUrl transport settled owner client unguarded resettled]

/-- A run in which a token is granted, and then the image is not found. -/
def grantingRun : Run Script.World Log.Entry where
  world := {
    entries :=
      [{ answer := .ok ⟨200, none, Utf8.encode "\x7b\"token\":\"abc\"\x7d".toList⟩ },
        { answer := .ok ⟨404, none, []⟩ }] }

/-- A token that is granted is used for the manifest of the tag. -/
theorem granted_disciplinesTokens :
    logicalCalls (Action.perform ((atBase "https://docker.io").validateImage Script.transport
        fun _ => none) grantingRun).2.trace =
      ["https://auth.docker.io/token", "https://registry-1.docker.io/v2/me/server/manifests/1"] ∧
    ∃ target registry exchanges,
      (atBase "https://docker.io").Exchanged Script.transport (fun _ => none) grantingRun target
        registry exchanges ∧
      DisciplinesTokens target exchanges (registry.opening ++ exchanges.flatMap Exchange.events ++
        registry.closing grantingRun.isOpen) := by
  have calls : logicalCalls (Action.perform ((atBase "https://docker.io").validateImage
      Script.transport fun _ => none) grantingRun).2.trace =
      ["https://auth.docker.io/token", "https://registry-1.docker.io/v2/me/server/manifests/1"] := by
    decide +kernel
  have plain (client : Client) (given : (atBase "https://docker.io").client = some client) :
      client.headers.get? "authorization" = none := by
    cases given
    rfl
  obtain ⟨silent | exchanged, _⟩ := validateImage_disciplinesTokens (atBase "https://docker.io") plain
    Script.transport (fun _ => none) grantingRun
  · rw [silent] at calls
    cases calls
  · exact ⟨calls, exchanged⟩

end Claim

end ImageOwnership
