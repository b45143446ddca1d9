import ImageOwnership.Proofs.Http.Headers
import ImageOwnership.Proofs.Http.Unnoticed
import Mathlib.Data.List.TakeWhile

/-!
The user agent of a request. It is the one of the client unless the call gives its own; redirects leave
it alone, and so a transport that does not look at it does not notice another one.
-/

namespace ImageOwnership.Http

namespace Headers

/-- The headers with another user agent, where they name one. -/
def withAgent (agent : String) (headers : Headers) : Headers :=
  headers.map fun header => if header.1 = "user-agent" then (header.1, agent) else header

variable {agent name value : String} {headers given : Headers}

/-- The names stay as they are. -/
theorem withAgent_filter (keeps : String → Bool) :
    (headers.withAgent agent).filter (fun header => keeps header.1) =
      withAgent agent (headers.filter fun header => keeps header.1) := by
  rw [withAgent, withAgent, List.filter_map]
  congr 1
  apply List.filter_congr
  intro header _
  by_cases named : header.1 = "user-agent"
  · simp [named]
  · simp [named]

theorem withAgent_erase : (headers.withAgent agent).erase name = (headers.erase name).withAgent agent :=
  withAgent_filter fun other => other ≠ name

theorem withAgent_set (different : name ≠ "user-agent") :
    (headers.withAgent agent).set name value = (headers.set name value).withAgent agent := by
  have kept : withAgent agent [(name, value)] = [(name, value)] := by simp [withAgent, different]
  rw [set, set, withAgent_erase, withAgent, withAgent, List.map_append]
  exact congrArg _ kept.symm

theorem withAgent_setHost {url : Url} :
    (headers.withAgent agent).setHost url = (headers.setHost url).map (withAgent agent) := by
  unfold setHost
  cases ascii (CodePoint.ofString url.hostAndPort) with
  | error fault => rfl
  | ok host => exact congrArg Except.ok (withAgent_set (by decide))

theorem get?_withAgent (different : name ≠ "user-agent") :
    (headers.withAgent agent).get? name = headers.get? name := by
  apply get?_congr
  rw [withAgent_filter fun other => other = name, withAgent]
  have kept : ∀ header ∈ headers.filter (·.1 = name), header.1 ≠ "user-agent" := by
    intro header member
    rwa [of_decide_eq_true (List.mem_filter.mp member).2]
  rw [List.map_congr_left fun header member => if_neg (kept header member)]
  exact List.map_id _

/-- Nothing is left of headers all of whose names are given. -/
theorem update_covered (covered : ∀ header ∈ headers, given.any (·.1 = header.1) = true) :
    headers.update given = given := by
  have dropped : headers.filter (fun header => !given.any (·.1 = header.1)) = [] := by
    rw [List.filter_eq_nil_iff]
    intro header member
    rw [covered header member]
    decide
  rw [update, dropped, List.nil_append]

end Headers

namespace Request

/-- The request with another user agent, where it has one. -/
def withAgent (agent : String) (request : Request) : Request :=
  { request with headers := request.headers.withAgent agent }

/-- A request for nothing in particular, which is what a client makes of a call without headers. -/
def AcceptsAnything (request : Request) : Prop :=
  request.headers.get? "accept" = some "*/*"

variable {request : Request} {agent : String}

theorem withCredentials_withAgent :
    (request.withAgent agent).withCredentials = request.withCredentials.withAgent agent := by
  have url : (request.withAgent agent).url = request.url := rfl
  simp only [withCredentials, url]
  by_cases anonymous : (request.url.credentials.1.isEmpty && request.url.credentials.2.isEmpty) = true
  · rw [if_pos anonymous, if_pos anonymous]
  · rw [if_neg anonymous, if_neg anonymous, withAgent, Headers.withAgent_set (by decide)]
    rfl

theorem Akin.acceptsAnything {other : Request} (akin : other.Akin request)
    (accepts : request.AcceptsAnything) : other.AcceptsAnything :=
  (akin.headers "accept" (by decide)).trans accepts

end Request

theorem Headers.withAgent_withCookies {cookies : Cookies} {url : Url} {agent : String}
    {headers : Headers} :
    (headers.withAgent agent).withCookies cookies url =
      (headers.withCookies cookies url).map (Headers.withAgent agent) := by
  cases cookies with
  | none => rfl
  | some saying =>
      have cookie : (headers.withAgent agent).get? "cookie" = headers.get? "cookie" :=
        get?_withAgent (by decide)
      simp only [withCookies, cookie, Result.map_bind]
      congr 1
      funext _
      split
      · simp only [Result.map_bind, withAgent_set (show "cookie" ≠ "user-agent" by decide)]
        rfl
      · rfl

theorem Redirect.headers_withAgent {names : Url.HostNames} {request : Request} {agent : String}
    {url : Url} :
    Redirect.headers names (request.withAgent agent) url =
      (Redirect.headers names request url).map (Headers.withAgent agent) := by
  have same : (request.withAgent agent).url = request.url := rfl
  have moved : (request.withAgent agent).headers = request.headers.withAgent agent := rfl
  simp only [Redirect.headers, same, moved, Headers.withAgent_erase, Headers.withAgent_setHost,
    Result.map_bind]
  congr 1
  funext stays
  split
  · rfl
  · simp only [Result.map_bind]
    congr 1
    funext upgrades
    split
    · exact (Result.map_mapError _ _ _).symm
    · exact (Result.map_mapError _ _ _).symm

theorem Redirect.next_withAgent {names : Url.HostNames} {cookies : Cookies} {request : Request}
    {agent location : String} :
    Redirect.next names cookies (request.withAgent agent) location =
      (Redirect.next names cookies request location).map (Request.withAgent agent) := by
  have same : (request.withAgent agent).url = request.url := rfl
  unfold Redirect.next
  simp only [same, Redirect.headers_withAgent, Result.map_bind, Result.bind_map,
    Headers.withAgent_withCookies]
  rfl

/-- To requests that accept anything the answer does not depend on the user agent. -/
def Transport.IgnoresAgent {World : Type} (transport : Transport World) : Prop :=
  ∀ agent request world, request.AcceptsAnything →
    transport.respond (request.withAgent agent) world = transport.respond request world

theorem Transport.IgnoresAgent.unnoticed {World : Type} {transport : Transport World}
    (ignoring : transport.IgnoresAgent) (agent : String) :
    Unnoticed transport Request.AcceptsAnything (Request.withAgent agent) where
  url _ := rfl
  respond request world accepts := ignoring agent request world accepts
  next _ _ _ := Redirect.next_withAgent
  kept _ _ _ _ found accepts := (Redirect.akin_next found).acceptsAnything accepts
  credentials _ := Request.withCredentials_withAgent

/-! ### The clients of two user agents -/

theorem ascii_ofString_of_plain {text : String} (plain : ∀ char ∈ text.toList, char.toNat < 0x80) :
    ascii (CodePoint.ofString text) = .ok text := by
  have nothing : (CodePoint.ofString text).dropWhile isAsciiPoint = [] := by
    rw [List.dropWhile_eq_nil_iff]
    intro point member
    obtain ⟨char, present, rfl⟩ := List.mem_map.mp member
    exact decide_eq_true (plain char present)
  have written : ∃ written, ascii (CodePoint.ofString text) = .ok written := by
    rw [ascii, nothing]
    exact ⟨_, rfl⟩
  obtain ⟨written, ok⟩ := written
  rw [ok, ascii_ofString ok]

theorem Client.ofUserAgent_of_plain {agent : String}
    (plain : ∀ char ∈ agent.toList, char.toNat < 0x80) : ∃ client, ofUserAgent agent = .ok client := by
  have named : ascii (CodePoint.ofString "User-Agent") = .ok "User-Agent" := by decide +kernel
  refine ⟨⟨("accept", "*/*") :: [("User-Agent".toLower, agent)]⟩, ?_⟩
  rw [ofUserAgent, Headers.write_cons, named, ascii_ofString_of_plain plain]
  rfl

section Calls

variable {agent : String} {client other : Client} {call : Call}

theorem Call.withHost_withAgent {names : Url.HostNames} {headers : Headers} {url : Url} :
    Call.withHost names (headers.withAgent agent) url =
      (Call.withHost names headers url).map (Headers.withAgent agent) := by
  simp only [withHost, Headers.get?_withAgent (show "host" ≠ "user-agent" by decide)]
  split
  · rfl
  · simp only [Result.map_bind]
    congr 1
    funext host
    split
    · rfl
    · rw [Headers.withAgent_setHost, Result.map_mapError]

/-- Without headers of its own a call means the same request to two clients, but for the user agent. -/
theorem Call.request_withAgent {names : Url.HostNames} {cookies : Cookies} (bare : call.headers = [])
    (same : other.headers = client.headers.withAgent agent) :
    call.request names cookies other =
      (call.request names cookies client).map (Request.withAgent agent) := by
  have nothing : Headers.write [] = .ok [] := rfl
  have drafts : call.draft names other =
      (call.draft names client).map fun drafted => (drafted.1, drafted.2.withAgent agent) := by
    simp only [Call.draft, bare, nothing, same, Result.mapError_ok, Result.ok_bind,
      Headers.update_nil, Result.map_bind]
    rfl
  simp only [Call.request, drafts, Result.map_bind, Result.bind_map, Headers.withAgent_withCookies,
    Call.withHost_withAgent]
  rfl

/-- A call that gives each header of two clients means the same request to both. -/
theorem Call.request_covered {names : Url.HostNames} {cookies : Cookies}
    (covered : ∀ given, Headers.write call.headers = .ok given →
      other.headers.update given = client.headers.update given) :
    call.request names cookies other = call.request names cookies client := by
  have drafts : call.draft names other = call.draft names client := by
    unfold Call.draft
    cases written : Headers.write call.headers with
    | error fault => rfl
    | ok given => simp only [Result.mapError_ok, Result.ok_bind, covered given written]
  rw [Call.request, Call.request, drafts]

end Calls

end ImageOwnership.Http
