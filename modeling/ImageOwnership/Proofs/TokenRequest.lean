import ImageOwnership.Proofs.Image.Repository
import ImageOwnership.Proofs.RequestPlan
import ImageOwnership.Proofs.Http.Issued
import ImageOwnership.Proofs.Url.Form

/-!
What is asked of the token service. The query of a request for a token is a form with the service and the
scope of one repository, whatever the address of the service and whatever characters the repository
holds; and no other repository has the same query.
-/

namespace ImageOwnership

open Http

/-- The parameters that the query of an address stands for, read as a form. -/
def Url.parameters (url : Url) : List (String × String) :=
  (Form.decode (url.query.getD "").toList).map fun (name, value) =>
    (String.ofList name, String.ofList value)

theorem Token.scope_eq (repository : Image.Repository) :
    scope repository = "repository:" ++ repository.space ++ "/" ++ repository.name ++ ":pull" := by
  simp [scope, Image.Repository.path, String.append_assoc]

theorem Token.path_eq_of_scope_eq {first second : Image.Repository} (same : scope first = scope second) :
    first.path = second.path := by
  simp only [scope, String.append_assoc] at same
  exact String.append_left_inj _ |>.mp (String.append_right_inj _ |>.mp same)

section Query

variable {names : Url.HostNames} {cookies : Cookies} {client : Client} {call : Call}
  {request : Request} {parameters : List (String × String)}

/-- The query of a request is the form of the parameters that are given. -/
theorem Http.Call.query_of_request (given : call.parameters = some parameters)
    (written : call.request names cookies client = .ok request) :
    request.url.query = some (encodedParameters parameters) := by
  obtain ⟨url, _, _, _, drafted, _, _, rfl⟩ := Call.request_eq_ok written
  obtain ⟨base, _, _, _, targeted, _⟩ := Call.draft_eq_ok drafted
  simp only [Call.targetUrl, given] at targeted
  rw [Url.query_withQuery targeted, encodedParameters, String.toList_ofList, Form.encode_queryKeeps]

theorem Http.Call.parameters_of_request (given : call.parameters = some parameters)
    (written : call.request names cookies client = .ok request) :
    request.url.parameters = parameters := by
  have query := Call.query_of_request given written
  simp [Url.parameters, query, encodedParameters, Form.decode_encode, Function.comp_def]

end Query

section Issue

variable {World : Type} {transport : Transport World} {client : Client} {call : Call}
  {request : Request} {world begun after : World} {events : List Event}

theorem Http.Attempt.issues {result : Except Fault Reply}
    (attempt : Attempt transport client true call world events result after)
    (written : transport.request world call client = .ok request) :
    ∃ rest, events = .called call.url :: .sent request.withCredentials :: rest := by
  cases attempt with
  | unwritable unwritten =>
      rw [written] at unwritten
      cases unwritten
  | closed _ shut => cases shut
  | sent again _ hops =>
      rw [written] at again
      cases again
      obtain ⟨others, rfl⟩ := hops.begins
      exact ⟨_, rfl⟩

/-- A request that can be written is issued, unless the call is cancelled at once. -/
theorem Http.Course.issues {left pauses : Nat} {result : Except Stop Reply}
    (course : Course transport client true call left pauses world events result after)
    (uncancelled : transport.isCancelled world = (false, begun))
    (written : transport.request begun call client = .ok request) :
    request.withCredentials ∈ Http.issued events := by
  cases course with
  | cancelledBefore cancelled =>
      rw [cancelled] at uncancelled
      cases uncancelled
  | cancelledDuring looked attempt _ | replied looked attempt _
  | failed looked attempt _ | repeated looked attempt _ _ =>
      rw [uncancelled] at looked
      cases looked
      obtain ⟨rest, rfl⟩ := attempt.issues written
      exact List.mem_cons_self

end Issue

namespace Claim

variable {World : Type} {claim : Claim} {transport : Transport World}
  {environment : Settings.Environment} {run : Run World Log.Entry}

/-- The requests for a token that a validation sends, as they are before any redirect. -/
inductive TokenRequest (claim : Claim) (transport : Transport World)
    (environment : Settings.Environment) (run : Run World Log.Entry) : Request → Prop where
  | issued {target : Target} {registry : Registry} {exchanges : List Exchange} {exchange : Exchange}
      {url : String} {stage : Stage} {request : Request}
      (exchanged : claim.Exchanged transport environment run target registry exchanges)
      (member : exchange ∈ exchanges) (asked : exchange.purpose = .token url stage)
      (sent : request ∈ Http.issued exchange.events) :
      TokenRequest claim transport environment run request

theorem TokenRequest.scoped {request : Request}
    (asks : claim.TokenRequest transport environment run request) :
    ∃ repository, Image.Repository.ofIdentifier? claim.descriptor.identifier = some repository ∧
      request.url.parameters = Token.parameters repository := by
  obtain ⟨exchanged, member, asked, sent⟩ := asks
  rename_i target registry exchanges exchange url stage
  obtain ⟨_, _, named, _⟩ := target_eq_ok_iff.mp exchanged.settled
  obtain ⟨_, _, course⟩ := exchanged.coursed member
  obtain ⟨_, first, written, rfl⟩ := course.issued sent
  rw [asked] at written
  refine ⟨target.image.repository, named, ?_⟩
  rw [Request.url_withCredentials]
  exact Call.parameters_of_request rfl written

/-- The first request of a validation that needs tokens is for one, as soon as it can be written. -/
theorem tokenRequest_of_written {target : Target} {registry : Registry} {url : String}
    {request : Request} {begun : World} (settled : claim.target environment = .ok target)
    (made : claim.made target = .ok registry) (guarded : registry.authorization = .token url)
    (opened : run.isOpen = true) (uncancelled : transport.isCancelled run.world = (false, begun))
    (written : transport.request begun ((Purpose.token url .tag).call registry target.image)
      registry.client = .ok request) :
    claim.TokenRequest transport environment run request.withCredentials := by
  obtain ⟨exchanges, _, _, _, conversation, _⟩ := perform_validateImage transport settled made run
  have exchanged := exchanged_of_conversation settled made conversation
  have first : registry.entering .tag = .calling (.token url .tag) := by
    rw [Registry.entering, guarded]
  rw [first] at conversation
  cases conversation with
  | calls course rest =>
      rw [opened] at course
      exact .issued exchanged List.mem_cons_self rfl (course.issues uncancelled written)

/-- A request for a token asks for the repository that the identifier names and for nothing else, and
the queries of requests for two repositories differ. -/
theorem tokenRequest_asksRepository {request : Request}
    (asks : claim.TokenRequest transport environment run request) :
    ∃ repository, Image.Repository.ofIdentifier? claim.descriptor.identifier = some repository ∧
      request.url.parameters =
        [("service", "registry.docker.io"),
          ("scope", "repository:" ++ repository.space ++ "/" ++ repository.name ++ ":pull")] ∧
      ∀ (Other : Type) (other : Claim) (elsewhere : Transport Other) (away : Settings.Environment)
        (start : Run Other Log.Entry) (second : Request),
        other.TokenRequest elsewhere away start second → second.url.query = request.url.query →
          Image.Repository.ofIdentifier? other.descriptor.identifier = some repository := by
  obtain ⟨repository, named, read⟩ := asks.scoped
  refine ⟨repository, named, ?_, ?_⟩
  · rw [read, Token.parameters, Token.scope_eq]
  · intro Other other elsewhere away start second asksAgain same
    obtain ⟨rival, renamed, reread⟩ := asksAgain.scoped
    have parameters : Token.parameters rival = Token.parameters repository := by
      rw [← reread, ← read, Url.parameters, Url.parameters, same]
    have scopes : Token.scope rival = Token.scope repository := by
      simpa [Token.parameters] using parameters
    rw [renamed, Image.Repository.eq_of_path_eq renamed named (Token.path_eq_of_scope_eq scopes)]

/-- A claim on an image with an identifier that is full of the marks of a form. -/
def ofMarks : Claim :=
  { ofTag "1" with descriptor := ⟨.oci, "https://docker.io", "a&b=1+/c %41#é", "1"⟩ }

/-- The marks of a form are asked for as any other character of a repository. -/
theorem ofMarks_asksRepository :
    ∃ request, ofMarks.TokenRequest Script.transport (fun _ => none) unansweredRun request ∧
      request.url.parameters =
        [("service", "registry.docker.io"), ("scope", "repository:a&b=1+/c %41#é:pull")] := by
  let target : Target :=
    ⟨⟨.whole 10, 0, Settings.defaultUserAgent, Settings.defaultTokenUrl, true⟩, Provider.dockerOrigin,
      ⟨⟨"a&b=1+", "c %41#é"⟩, "1"⟩⟩
  let registry : Registry :=
    .atOrigin target.origin target.settings (.token Settings.defaultTokenUrl) ⟨[]⟩ false
  have settled : ofMarks.target (fun _ => none) = .ok target := by decide +kernel
  have made : ofMarks.made target = .ok registry := by decide +kernel
  have writable : (Script.transport.request unansweredRun.world
      ((Purpose.token Settings.defaultTokenUrl .tag).call registry target.image)
      registry.client).toOption.isSome = true := by
    decide +kernel
  cases written : Script.transport.request unansweredRun.world
      ((Purpose.token Settings.defaultTokenUrl .tag).call registry target.image) registry.client with
  | error fault =>
      rw [written] at writable
      cases writable
  | ok request =>
      have asks : ofMarks.TokenRequest Script.transport (fun _ => none) unansweredRun
          request.withCredentials :=
        tokenRequest_of_written settled made rfl rfl rfl written
      obtain ⟨repository, named, read, _⟩ := tokenRequest_asksRepository asks
      have same : Image.Repository.ofIdentifier? ofMarks.descriptor.identifier =
          some ⟨"a&b=1+", "c %41#é"⟩ := by decide +kernel
      rw [same] at named
      cases named
      exact ⟨_, asks, read⟩

end Claim

end ImageOwnership
