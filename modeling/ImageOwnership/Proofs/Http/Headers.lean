import ImageOwnership.Proofs.Http.Course
import ImageOwnership.Proofs.Http.Writing
import ImageOwnership.Registry

/-!
Headers that stay with a call. What a call gives for a name takes the place of what the client adds, and
no redirect touches it unless it is the host, the authorization or a cookie, so that every request of the
call carries it.
-/

namespace ImageOwnership.Http

namespace Headers

variable {headers given : Headers} {name key value : String}

theorem get?_congr {others : Headers}
    (same : headers.filter (·.1 = name) = others.filter (·.1 = name)) :
    headers.get? name = others.get? name := by
  unfold get?
  rw [same]

theorem get?_erase_of_ne (different : name ≠ key) :
    (headers.erase key).get? name = headers.get? name := by
  apply get?_congr
  unfold erase
  rw [List.filter_filter]
  apply List.filter_congr
  intro header _
  by_cases same : header.1 = name
  · simp [same, different]
  · simp [same]

theorem get?_set_of_ne (different : name ≠ key) :
    (headers.set key value).get? name = headers.get? name := by
  have erased : (headers.erase key).get? name = headers.get? name := get?_erase_of_ne different
  rw [← erased]
  apply get?_congr
  simp [set, Ne.symm different]

theorem get?_setHost_of_ne {url : Url} {written : Headers} (different : name ≠ "host")
    (hosted : headers.setHost url = .ok written) : written.get? name = headers.get? name := by
  unfold setHost at hosted
  obtain ⟨host, _, hosted⟩ := Result.bind_eq_ok.mp hosted
  cases hosted
  exact get?_set_of_ne different

theorem get?_withCookies_of_ne {cookies : Cookies} {url : Url} {written : Headers}
    (different : name ≠ "cookie") (said : headers.withCookies cookies url = .ok written) :
    written.get? name = headers.get? name := by
  obtain rfl | ⟨_, text, rfl⟩ := withCookies_eq_ok said
  · rfl
  · exact get?_set_of_ne different

theorem update_nil (headers : Headers) : headers.update [] = headers := by
  rw [update, List.append_nil]
  exact List.filter_eq_self.mpr fun _ _ => rfl

/-- What is given under a name is what counts under it. -/
theorem get?_update (found : given.get? name = some value) :
    (headers.update given).get? name = some value := by
  rw [← found]
  apply get?_congr
  have named : given.any (·.1 = name) = true := by
    rw [List.any_eq_true]
    have some : given.filter (·.1 = name) ≠ [] := by
      intro none
      simp [get?, none] at found
    obtain ⟨header, member⟩ := List.exists_mem_of_ne_nil _ some
    exact ⟨header, List.mem_filter.mp member⟩
  have dropped :
      (headers.filter fun header => !given.any (·.1 = header.1)).filter (·.1 = name) = [] := by
    rw [List.filter_eq_nil_iff]
    intro header member
    have kept := (List.mem_filter.mp member).2
    simp only [decide_eq_true_eq]
    intro same
    rw [same, named] at kept
    cases kept
  rw [update, List.filter_append, dropped, List.nil_append]

end Headers

theorem ascii_ofString {text written : String} (ascii : ascii (CodePoint.ofString text) = .ok written) :
    written = text := by
  unfold Http.ascii at ascii
  split at ascii
  · cases ascii
    have chars : CodePoint.toChar? ∘ CodePoint.char = some := rfl
    rw [CodePoint.ofString, List.filterMap_map, chars, List.filterMap_some, String.ofList_toList]
  · cases ascii

theorem Headers.write_cons (name : String) (text : List CodePoint)
    (drafts : List (String × List CodePoint)) :
    Headers.write ((name, text) :: drafts) = (do
      let key ← ascii (CodePoint.ofString name)
      let value ← ascii text
      let rest ← Headers.write drafts
      return (key.toLower, value) :: rest) := by
  simp [Headers.write, List.mapM_cons, bind_assoc]

theorem Headers.write_cons_ok {name : String} {text : List CodePoint}
    {drafts : List (String × List CodePoint)} {given : Headers}
    (written : Headers.write ((name, text) :: drafts) = .ok given) :
    ∃ value rest, ascii text = .ok value ∧ Headers.write drafts = .ok rest ∧
      given = (name.toLower, value) :: rest := by
  rw [Headers.write_cons] at written
  obtain ⟨key, named, written⟩ := Result.bind_eq_ok.mp written
  obtain ⟨value, texted, written⟩ := Result.bind_eq_ok.mp written
  obtain ⟨rest, others, written⟩ := Result.bind_eq_ok.mp written
  rw [ascii_ofString named] at written
  cases written
  exact ⟨value, rest, texted, others, rfl⟩

theorem Client.headers_ofUserAgent {agent : String} {client : Client}
    (made : Client.ofUserAgent agent = .ok client) :
    client.headers = [("accept", "*/*"), ("user-agent", agent)] := by
  unfold Client.ofUserAgent at made
  obtain ⟨headers, written, made⟩ := Result.bind_eq_ok.mp made
  cases made
  obtain ⟨value, rest, texted, nothing, rfl⟩ := Headers.write_cons_ok written
  have lower : "User-Agent".toLower = "user-agent" := by decide +kernel
  have empty : rest = [] := by simpa [Headers.write, pure, Except.pure, eq_comm] using nothing
  rw [lower, ascii_ofString texted, empty]

/-- The headers that a registry gives are written as they are. -/
theorem Headers.write_requestHeaders_cases {registry : Registry} {accept : String}
    {bearer : Option (List CodePoint)} {given : Headers}
    (written : Headers.write (registry.requestHeaders accept bearer) = .ok given) :
    bearer = none ∧ given = [("accept", accept), ("user-agent", registry.settings.userAgent)] ∨
      ∃ token value, bearer = some token ∧
        ascii (CodePoint.ofString "Bearer " ++ token) = .ok value ∧
        given = [("accept", accept), ("user-agent", registry.settings.userAgent),
          ("authorization", value)] := by
  obtain ⟨accepted, others, acceptWritten, rest, rfl⟩ := Headers.write_cons_ok written
  obtain ⟨agent, last, agentWritten, final, rfl⟩ := Headers.write_cons_ok rest
  have lowerAccept : "Accept".toLower = "accept" := by decide +kernel
  have lowerAgent : "User-Agent".toLower = "user-agent" := by decide +kernel
  rw [ascii_ofString acceptWritten, ascii_ofString agentWritten, lowerAccept, lowerAgent]
  cases bearer with
  | none =>
      have empty : last = [] := by simpa [Headers.write, pure, Except.pure, eq_comm] using final
      exact .inl ⟨rfl, by rw [empty]⟩
  | some token =>
      obtain ⟨value, none, tokenWritten, nothing, rfl⟩ := Headers.write_cons_ok final
      have empty : none = [] := by simpa [Headers.write, pure, Except.pure, eq_comm] using nothing
      have lowerAuthorization : "Authorization".toLower = "authorization" := by decide +kernel
      exact .inr ⟨token, value, rfl, tokenWritten, by rw [empty, lowerAuthorization]⟩

theorem Headers.write_requestHeaders {registry : Registry} {accept : String}
    {bearer : Option (List CodePoint)} {given : Headers}
    (written : Headers.write (registry.requestHeaders accept bearer) = .ok given) :
    given.get? "accept" = some accept ∧
      given.get? "user-agent" = some registry.settings.userAgent := by
  obtain ⟨_, rfl⟩ | ⟨token, value, _, _, rfl⟩ := Headers.write_requestHeaders_cases written
  · simp [Headers.get?]
  · simp [Headers.get?]

/-- The headers that may be others in the next request of a call. -/
def Headers.moving : List String := ["host", "authorization", "cookie"]

/-- A request that differs from another one in no header but those that may move. -/
structure Request.Akin (sent first : Request) : Prop where
  headers : ∀ name, name ∉ Headers.moving → sent.headers.get? name = first.headers.get? name
  timeout : sent.timeout = first.timeout

theorem Headers.not_moving_iff {name : String} :
    name ∉ moving ↔ name ≠ "host" ∧ name ≠ "authorization" ∧ name ≠ "cookie" := by
  simp [moving]

section Akin

variable {World : Type} {transport : Transport World} {client : Client} {isOpen : Bool} {call : Call}
  {world after : World} {events : List Event} {request : Request} {names : Url.HostNames}
  {cookies : Cookies}

theorem Request.Akin.refl (request : Request) : request.Akin request :=
  ⟨fun _ _ => rfl, rfl⟩

theorem Request.Akin.trans {first second third : Request} (later : third.Akin second)
    (earlier : second.Akin first) : third.Akin first := by
  refine ⟨?_, later.timeout.trans earlier.timeout⟩
  intro name staying
  exact (later.headers name staying).trans (earlier.headers name staying)

theorem Request.akin_withCredentials (request : Request) : request.withCredentials.Akin request := by
  simp only [Request.withCredentials]
  split
  · exact .refl request
  · refine ⟨fun name staying => ?_, rfl⟩
    exact Headers.get?_set_of_ne (Headers.not_moving_iff.mp staying).2.1

/-- A redirect leaves the headers alone that do not move. -/
theorem Redirect.get?_headers {url : Url} {headers : Headers} {name : String}
    (staying : name ∉ Headers.moving) (redirected : Redirect.headers names request url = .ok headers) :
    headers.get? name = request.headers.get? name := by
  obtain ⟨unhosted, other, uncookied⟩ := Headers.not_moving_iff.mp staying
  obtain ⟨_, rfl⟩ | ⟨_, moved⟩ | moved := Redirect.headers_eq_ok redirected
  · exact Headers.get?_erase_of_ne uncookied
  · rw [Headers.get?_setHost_of_ne unhosted moved, Headers.get?_erase_of_ne uncookied]
  · rw [Headers.get?_setHost_of_ne unhosted moved, Headers.get?_erase_of_ne other,
      Headers.get?_erase_of_ne uncookied]

theorem Redirect.akin_next {next : Request} {location : String}
    (found : Redirect.next names cookies request location = .ok next) : next.Akin request := by
  obtain ⟨url, kept, headers, _, redirected, said, rfl⟩ := Redirect.next_eq_ok found
  refine ⟨fun name staying => ?_, rfl⟩
  have uncookied := (Headers.not_moving_iff.mp staying).2.2
  exact (Headers.get?_withCookies_of_ne uncookied said).trans (Redirect.get?_headers staying redirected)

/-- From repetition to repetition and from redirect to redirect the requests of a call stay akin to one
that it means. -/
theorem Course.akin {left pauses : Nat} {result : Except Stop Reply}
    (course : Course transport client isOpen call left pauses world events result after)
    {sent : Request} (member : .sent sent ∈ events) :
    ∃ begun request, transport.request begun call client = .ok request ∧ sent.Akin request := by
  refine course.invariant (fun sent => ∃ begun request,
    transport.request begun call client = .ok request ∧ sent.Akin request) ?_ ?_ member
  · rintro _ request location next found ⟨begun, first, written, akin⟩
    exact ⟨begun, first, written, (Redirect.akin_next found).trans akin⟩
  · intro begun request written
    exact ⟨begun, request, written, request.akin_withCredentials⟩

/-- The request of a call has the headers of the client, with those of the call in their place. -/
theorem Call.request_headers (written : call.request names cookies client = .ok request) :
    ∃ given, Headers.write call.headers = .ok given ∧ request.timeout = call.timeout ∧
      ∀ name, name ≠ "host" → name ≠ "cookie" →
        request.headers.get? name = (client.headers.update given).get? name := by
  obtain ⟨url, drafted, said, headers, draft, cookied, hosted, rfl⟩ := Call.request_eq_ok written
  obtain ⟨_, given, _, givenWritten, _, rfl⟩ := Call.draft_eq_ok draft
  refine ⟨given, givenWritten, rfl, ?_⟩
  intro name unhosted uncookied
  rw [← Headers.get?_withCookies_of_ne uncookied cookied]
  obtain rfl | moved := Call.withHost_eq_ok hosted
  · rfl
  · exact Headers.get?_setHost_of_ne unhosted moved

/-- A call that gives no headers accepts what the client accepts. -/
theorem Call.accept_of_bare (bare : call.headers = [])
    (written : call.request names cookies client = .ok request) :
    request.headers.get? "accept" = client.headers.get? "accept" := by
  obtain ⟨given, headers, _, kept⟩ := Call.request_headers written
  rw [bare] at headers
  cases headers
  rw [kept _ (by decide) (by decide)]
  exact congrArg (Headers.get? · "accept") (Headers.update_nil client.headers)

end Akin

end ImageOwnership.Http
