import ImageOwnership.Http.Client
import ImageOwnership.Proofs.Result

/-!
How requests are written: for a call, and once more for each redirect. The parts of a request that was
written are told one after the other, and what can go wrong with a call before anything is sent is told by
the kind of the fault.
-/

namespace ImageOwnership

theorem Url.hostName_eq_error {names : HostNames} {url : Url} {fault : Host.Fault}
    (failed : url.hostName names = .error fault) : ∃ reason, fault = .unreadableName reason := by
  unfold Url.hostName at failed
  split at failed
  · cases failed
  · cases failed
    exact ⟨_, rfl⟩

namespace Http

variable {names : Url.HostNames} {cookies : Cookies} {call : Call} {client : Client} {request : Request}
  {url : Url} {headers written : Headers} {fault : Fault}

/-! ### Cookies and hosts -/

theorem Headers.withCookies_eq_ok (said : headers.withCookies cookies url = .ok written) :
    written = headers ∨ headers.get? "cookie" = none ∧ ∃ text, written = headers.set "cookie" text := by
  cases cookies with
  | none =>
      cases said
      exact .inl rfl
  | some saying =>
      obtain ⟨_, _, said⟩ := Result.bind_eq_ok.mp said
      split at said
      · rename_i absent
        obtain ⟨text, _, said⟩ := Result.bind_eq_ok.mp said
        cases said
        exact .inr ⟨absent, text, rfl⟩
      · cases said
        exact .inl rfl

theorem Headers.withCookies_eq_error (failed : headers.withCookies cookies url = .error fault) :
    (∃ cause, fault = .header cause) ∨
      cookies ≠ none ∧ ∃ unknown, url.checkHost = .error unknown ∧ fault = .host unknown := by
  cases cookies with
  | none => cases failed
  | some saying =>
      obtain failed | ⟨_, _, failed⟩ := Result.bind_eq_error.mp failed
      · obtain ⟨unknown, untold, rfl⟩ := Result.mapError_eq_error.mp failed
        exact .inr ⟨nofun, unknown, untold, rfl⟩
      · split at failed
        · obtain failed | ⟨_, _, failed⟩ := Result.bind_eq_error.mp failed
          · obtain ⟨cause, _, rfl⟩ := Result.mapError_eq_error.mp failed
            exact .inl ⟨cause, rfl⟩
          · cases failed
        · cases failed

theorem Call.withHost_eq_ok (hosted : withHost names headers url = .ok written) :
    written = headers ∨ headers.setHost url = .ok written := by
  unfold withHost at hosted
  split at hosted
  · cases hosted
    exact .inl rfl
  · obtain ⟨host, _, hosted⟩ := Result.bind_eq_ok.mp hosted
    split at hosted
    · cases hosted
      exact .inl rfl
    · exact .inr (Result.mapError_eq_ok.mp hosted)

theorem Call.withHost_eq_error (failed : withHost names headers url = .error fault) :
    (∃ cause, fault = .header cause) ∨ ∃ reason, fault = .host (.unreadableName reason) := by
  unfold withHost at failed
  split at failed
  · cases failed
  · obtain failed | ⟨host, _, failed⟩ := Result.bind_eq_error.mp failed
    · obtain ⟨_, unread, rfl⟩ := Result.mapError_eq_error.mp failed
      obtain ⟨reason, rfl⟩ := Url.hostName_eq_error unread
      exact .inr ⟨reason, rfl⟩
    · split at failed
      · cases failed
      · obtain ⟨cause, _, rfl⟩ := Result.mapError_eq_error.mp failed
        exact .inl ⟨cause, rfl⟩

/-! ### Calls -/

theorem Call.draft_eq_ok {given : Headers} (drafted : call.draft names client = .ok (url, given)) :
    ∃ base own, call.baseUrl names = .ok base ∧ Headers.write call.headers = .ok own ∧
      call.targetUrl names base = .ok url ∧ given = client.headers.update own := by
  obtain ⟨base, based, drafted⟩ := Result.bind_eq_ok.mp drafted
  obtain ⟨own, owned, drafted⟩ := Result.bind_eq_ok.mp drafted
  obtain ⟨target, targeted, drafted⟩ := Result.bind_eq_ok.mp drafted
  cases drafted
  exact ⟨base, own, Result.mapError_eq_ok.mp based, Result.mapError_eq_ok.mp owned,
    Result.mapError_eq_ok.mp targeted, rfl⟩

theorem Call.draft_eq_error (failed : call.draft names client = .error fault) :
    (∃ cause, fault = .url cause) ∨ ∃ cause, fault = .header cause := by
  simp only [draft, Result.bind_eq_error, Result.mapError_eq_error] at failed
  obtain ⟨cause, _, rfl⟩ | ⟨_, _, ⟨cause, _, rfl⟩ | ⟨_, _, ⟨cause, _, rfl⟩ | ⟨_, _, made⟩⟩⟩ := failed
  · exact .inl ⟨cause, rfl⟩
  · exact .inr ⟨cause, rfl⟩
  · exact .inl ⟨cause, rfl⟩
  · cases made

/-- A request of a call has the address that is drafted for it, with the headers of the draft, the cookies
for the address, and its host. -/
theorem Call.request_eq_ok (made : call.request names cookies client = .ok request) :
    ∃ url given said headers, call.draft names client = .ok (url, given) ∧
      given.withCookies cookies url = .ok said ∧ withHost names said url = .ok headers ∧
      request = ⟨url, headers, call.timeout⟩ := by
  obtain ⟨⟨url, given⟩, drafted, made⟩ := Result.bind_eq_ok.mp made
  obtain ⟨said, cookied, made⟩ := Result.bind_eq_ok.mp made
  obtain ⟨headers, hosted, made⟩ := Result.bind_eq_ok.mp made
  cases made
  exact ⟨url, given, said, headers, drafted, cookied, hosted, rfl⟩

/-- A request cannot be written when it is its address or one of its headers that cannot, or its host:
because it is a form without a name, or because cookies are kept and the host cannot be told. -/
theorem Call.request_eq_error (failed : call.request names cookies client = .error fault) :
    (∃ cause, fault = .url cause) ∨ (∃ cause, fault = .header cause) ∨
      ∃ unknown, fault = .host unknown ∧
        (cookies ≠ none ∨ ∃ reason, unknown = .unreadableName reason) := by
  obtain failed | ⟨⟨url, given⟩, _, failed⟩ := Result.bind_eq_error.mp failed
  · obtain address | header := Call.draft_eq_error failed
    · exact .inl address
    · exact .inr (.inl header)
  · obtain failed | ⟨said, _, failed⟩ := Result.bind_eq_error.mp failed
    · obtain header | ⟨kept, unknown, _, rfl⟩ := Headers.withCookies_eq_error failed
      · exact .inr (.inl header)
      · exact .inr (.inr ⟨unknown, rfl, .inl kept⟩)
    · obtain failed | ⟨headers, _, failed⟩ := Result.bind_eq_error.mp failed
      · obtain header | ⟨reason, rfl⟩ := Call.withHost_eq_error failed
        · exact .inr (.inl header)
        · exact .inr (.inr ⟨_, rfl, .inr ⟨reason, rfl⟩⟩)
      · cases failed

/-! ### Redirects -/

namespace Redirect

variable {location : String} {next : Request}

/-- The headers of a request go on to another address in one of three ways. -/
theorem headers_eq_ok (redirected : Redirect.headers names request url = .ok written) :
    sameOrigin names url request.url = .ok true ∧ written = request.headers.erase "cookie" ∨
      isUpgrade names request.url url = .ok true ∧
        (request.headers.erase "cookie").setHost url = .ok written ∨
      ((request.headers.erase "cookie").erase "authorization").setHost url = .ok written := by
  obtain ⟨same, near, redirected⟩ := Result.bind_eq_ok.mp redirected
  cases same with
  | true =>
      cases redirected
      exact .inl ⟨near, rfl⟩
  | false =>
      obtain ⟨upgrade, moved, redirected⟩ := Result.bind_eq_ok.mp redirected
      cases upgrade with
      | true => exact .inr (.inl ⟨moved, Result.mapError_eq_ok.mp redirected⟩)
      | false => exact .inr (.inr (Result.mapError_eq_ok.mp redirected))

theorem next_eq_ok (found : Redirect.next names cookies request location = .ok next) :
    ∃ url kept headers, target names request.url location = .ok url ∧
      Redirect.headers names request url = .ok kept ∧ kept.withCookies cookies url = .ok headers ∧
      next = { request with url, headers } := by
  unfold Redirect.next at found
  obtain ⟨url, targeted, found⟩ := Result.bind_eq_ok.mp found
  obtain ⟨kept, redirected, found⟩ := Result.bind_eq_ok.mp found
  obtain ⟨headers, cookied, found⟩ := Result.bind_eq_ok.mp found
  cases found
  exact ⟨url, kept, headers, targeted, redirected, cookied, rfl⟩

end Redirect

end Http

end ImageOwnership
