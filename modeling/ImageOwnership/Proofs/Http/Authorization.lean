import ImageOwnership.Proofs.Http.Headers
import Mathlib.Data.List.TakeWhile

/-!
Where the authorization of a request may go. A redirect takes it away or passes it on to the same origin;
only from the plain scheme it may also move to the secure one. A call begins with the authorization of
its own headers, with that of the client, or with the credentials in its address.
-/

namespace ImageOwnership.Http

def Request.authorization? (request : Request) : Option String :=
  request.headers.get? "authorization"

/-! ### Written tokens -/

theorem isAsciiPoint_surrogate (offset : Fin 2048) : isAsciiPoint (.surrogate offset) = false := by
  have high : ¬ 0xD800 + offset.val < 0x80 := by omega
  exact decide_eq_false high

theorem ofString_toChars {text : List CodePoint} (plain : ∀ point ∈ text, isAsciiPoint point = true) :
    (text.filterMap CodePoint.toChar?).map .char = text := by
  induction text with
  | nil => rfl
  | cons first rest ih =>
      have here := plain first List.mem_cons_self
      have later := ih fun point member => plain point (List.mem_cons_of_mem _ member)
      cases first with
      | char value => simpa [CodePoint.toChar?] using later
      | surrogate offset =>
          rw [isAsciiPoint_surrogate] at here
          cases here

theorem ofString_ascii {text : List CodePoint} {written : String} (ascii : ascii text = .ok written) :
    CodePoint.ofString written = text := by
  unfold Http.ascii at ascii
  split at ascii
  · rename_i nothing
    cases ascii
    rw [CodePoint.ofString, String.toList_ofList]
    exact ofString_toChars (List.dropWhile_eq_nil_iff.mp nothing)
  · cases ascii

namespace Headers

variable {headers given : Headers} {name value : String}

theorem get?_eq_none_iff : headers.get? name = none ↔ headers.filter (·.1 = name) = [] := by
  unfold get?
  split
  · rename_i nothing
    simp [nothing]
  · rename_i something
    simpa using something

theorem get?_erase_self (headers : Headers) (name : String) : (headers.erase name).get? name = none := by
  rw [get?_eq_none_iff]
  simp [erase]

theorem get?_set_self (headers : Headers) (name value : String) :
    (headers.set name value).get? name = some value := by
  have erased := get?_eq_none_iff.mp (get?_erase_self headers name)
  simp [get?, set, List.filter_append, erased]

theorem get?_update_of_none (absent : given.get? name = none) :
    (headers.update given).get? name = headers.get? name := by
  have none := get?_eq_none_iff.mp absent
  apply get?_congr
  rw [update, List.filter_append, none, List.append_nil, List.filter_filter]
  apply List.filter_congr
  intro header _
  by_cases same : header.1 = name
  · have unnamed : given.any (·.1 = name) = false := by
      rw [List.any_eq_false]
      intro other member named
      have found : other ∈ given.filter (·.1 = name) := List.mem_filter.mpr ⟨member, named⟩
      rw [none] at found
      cases found
    simp [same, unnamed]
  · simp [same]

end Headers

/-! ### Along redirects -/

namespace Redirect

/-- Addresses at one origin: the hosts are the same where they are read. -/
structure Near (names : Url.HostNames) (first second : Url) : Prop where
  scheme : first.scheme = second.scheme
  host : names.read first.host.toList = names.read second.host.toList
  port : effectivePort first = effectivePort second

end Redirect

/-- What is left of the authorization of a request at the end of some redirects: nothing, or all of it,
and then at the same origin unless it was in the open before. -/
def Request.Entrusted (names : Url.HostNames) (sent first : Request) : Prop :=
  sent.authorization? = none ∨
    sent.authorization? = first.authorization? ∧
      (first.url.scheme ≠ "http" → Redirect.Near names first.url sent.url)

/-- A host that is read as an ASCII name is written like that. -/
theorem Url.HostNames.eq_of_read {names : Url.HostNames} {host name : List Char}
    (read : names.read host = .ok name) (plain : Url.isAscii name = true) : host = name := by
  unfold Url.HostNames.read at read
  split at read
  · rw [names.decode_foreign read] at plain
    cases plain
  · cases read
    rfl

namespace Redirect

variable {names : Url.HostNames} {cookies : Cookies} {first second third : Url}
  {request next : Request} {location : String}

theorem Near.refl (names : Url.HostNames) (url : Url) : Near names url url :=
  ⟨rfl, rfl, rfl⟩

theorem Near.symm (near : Near names first second) : Near names second first :=
  ⟨near.scheme.symm, near.host.symm, near.port.symm⟩

theorem Near.trans (former : Near names first second) (latter : Near names second third) :
    Near names first third :=
  ⟨former.scheme.trans latter.scheme, former.host.trans latter.host, former.port.trans latter.port⟩

/-- Near a host that is read as an ASCII name there is no other one. -/
theorem Near.host_eq (near : Near names first second) {name : List Char}
    (read : names.read first.host.toList = .ok name) (plain : Url.isAscii name = true) :
    second.host = String.ofList name := by
  have other := Url.HostNames.eq_of_read (near.host.symm.trans read) plain
  rw [← other, String.ofList_toList]

theorem hostName_eq_ok {url : Url} {host : String} (read : url.hostName names = .ok host) :
    names.read url.host.toList = .ok host.toList := by
  unfold Url.hostName at read
  split at read
  · rename_i name found
    cases read
    rw [found, String.toList_ofList]
  · cases read

theorem near_of_sameOrigin (same : sameOrigin names first second = .ok true) :
    Near names first second := by
  unfold sameOrigin at same
  split at same
  · cases same
  · rename_i scheme
    obtain ⟨host, read, same⟩ := Result.bind_eq_ok.mp same
    obtain ⟨other, otherRead, same⟩ := Result.bind_eq_ok.mp same
    have agree := Except.ok.inj same
    simp only [Bool.and_eq_true, decide_eq_true_eq] at agree
    have here := hostName_eq_ok (Result.mapError_eq_ok.mp read)
    have there := hostName_eq_ok (Result.mapError_eq_ok.mp otherRead)
    exact ⟨not_ne_iff.mp scheme, by rw [here, there, agree.1], agree.2⟩

theorem scheme_of_isUpgrade (upgrade : isUpgrade names first second = .ok true) :
    first.scheme = "http" := by
  obtain ⟨host, _, upgrade⟩ := Result.bind_eq_ok.mp upgrade
  obtain ⟨other, _, upgrade⟩ := Result.bind_eq_ok.mp upgrade
  have agree := Except.ok.inj upgrade
  simp only [Bool.and_eq_true, decide_eq_true_eq] at agree
  exact agree.1.1.1.2

theorem entrusted_next (found : Redirect.next names cookies request location = .ok next) :
    next.Entrusted names request := by
  obtain ⟨url, kept, headers, _, redirected, said, rfl⟩ := next_eq_ok found
  have cookied : headers.get? "authorization" = kept.get? "authorization" :=
    Headers.get?_withCookies_of_ne (by decide) said
  have erased : (request.headers.erase "cookie").get? "authorization" = request.authorization? :=
    Headers.get?_erase_of_ne (by decide)
  obtain ⟨same, rfl⟩ | ⟨upgrade, moved⟩ | moved := headers_eq_ok redirected
  · exact .inr ⟨cookied.trans erased, fun _ => (near_of_sameOrigin same).symm⟩
  · have hosted : kept.get? "authorization" =
        (request.headers.erase "cookie").get? "authorization" :=
      Headers.get?_setHost_of_ne (by decide) moved
    exact .inr ⟨cookied.trans (hosted.trans erased),
      fun other => absurd (scheme_of_isUpgrade upgrade) other⟩
  · have hosted : kept.get? "authorization" =
        ((request.headers.erase "cookie").erase "authorization").get? "authorization" :=
      Headers.get?_setHost_of_ne (by decide) moved
    exact .inl (cookied.trans (hosted.trans (Headers.get?_erase_self _ _)))

end Redirect

namespace Request.Entrusted

variable {names : Url.HostNames} {first second third : Request}

theorem refl (names : Url.HostNames) (request : Request) : request.Entrusted names request :=
  .inr ⟨rfl, fun _ => .refl names request.url⟩

theorem trans (later : third.Entrusted names second) (earlier : second.Entrusted names first) :
    third.Entrusted names first := by
  obtain gone | ⟨same, near⟩ := later
  · exact .inl gone
  · obtain gone | ⟨same', near'⟩ := earlier
    · exact .inl (same.trans gone)
    · -- At the same origin the scheme is the same, so that no upgrade is left to come.
      refine .inr ⟨same.trans same', fun secure => ?_⟩
      have origin := near' secure
      exact origin.trans (near (origin.scheme ▸ secure))

end Request.Entrusted

section Calls

variable {World : Type} {transport : Transport World} {client : Client} {isOpen : Bool} {call : Call}
  {world after : World} {events : List Event} {request : Request}

/-- The requests of a call share the authorization that the call begins with. -/
theorem Course.entrusted {left pauses : Nat} {result : Except Stop Reply}
    (course : Course transport client isOpen call left pauses world events result after)
    {sent : Request} (member : .sent sent ∈ events) :
    ∃ begun request, transport.request begun call client = .ok request ∧
      sent.Entrusted transport.names request.withCredentials := by
  refine course.invariant (fun sent => ∃ begun request,
    transport.request begun call client = .ok request ∧
      sent.Entrusted transport.names request.withCredentials) ?_ ?_ member
  · rintro _ request location next found ⟨begun, first, written, entrusted⟩
    exact ⟨begun, first, written, (Redirect.entrusted_next found).trans entrusted⟩
  · intro begun request written
    exact ⟨begun, request, written, .refl _ _⟩

theorem Request.authorization?_withCredentials (request : Request) :
    request.withCredentials.authorization? = request.authorization? ∨
      request.withCredentials.authorization? = some (basicCredentials request.url.credentials) := by
  simp only [Request.withCredentials]
  split
  · exact .inl rfl
  · exact .inr (Headers.get?_set_self _ _ _)

theorem Request.withCredentials_of_anonymous (anonymous : request.url.userinfo = "") :
    request.withCredentials = request := by
  have none : request.url.credentials = ("", "") := by
    simp only [Url.credentials, anonymous]
    decide
  simp [Request.withCredentials, none]

end Calls

end ImageOwnership.Http
