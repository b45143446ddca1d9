import ImageOwnership.Proofs.Http.Trace
import ImageOwnership.Proofs.Http.Writing
import ImageOwnership.Proofs.Url.Below

/-!
The requests that attempts begin with, before any redirect: each attempt at a call begins with what the
call means by then. Where no parameters are given its address is the one that is called, if that is absolute.
-/

namespace ImageOwnership.Http

/-- The first request of each attempt. -/
def issued : List Event → List Request
  | .called _ :: .sent request :: rest => request :: issued rest
  | _ :: rest => issued rest
  | [] => []

@[simp] theorem issued_called_sent (url : String) (request : Request) (rest : List Event) :
    issued (.called url :: .sent request :: rest) = request :: issued rest := rfl

@[simp] theorem issued_sent (requests : List Request) (rest : List Event) :
    issued (requests.map .sent ++ rest) = issued rest := by
  induction requests with
  | nil => rfl
  | cons request others ih => exact ih

section Issued

variable {World : Type} {transport : Transport World} {client : Client} {isOpen : Bool} {call : Call}
  {world after : World} {events : List Event} {request : Request}

theorem Hops.begins {left : Nat} {result : Except Fault Reply}
    (hops : Hops transport left request world events result after) :
    ∃ others : List Request, events = .sent request :: others.map .sent := by
  cases hops with
  | failed => exact ⟨[], rfl⟩
  | arrived => exact ⟨[], rfl⟩
  | astray => exact ⟨[], rfl⟩
  | tooMany => exact ⟨[], rfl⟩
  | onward _ _ _ rest =>
      obtain ⟨others, rfl⟩ := rest.requests
      exact ⟨others, rfl⟩

theorem Attempt.begins {result : Except Fault Reply}
    (attempt : Attempt transport client isOpen call world events result after) :
    events = [.called call.url] ∨
      ∃ (first : Request) (others : List Request), transport.request world call client = .ok first ∧
        events = .called call.url :: .sent first.withCredentials :: others.map .sent := by
  cases attempt with
  | unwritable => exact .inl rfl
  | closed => exact .inl rfl
  | sent written _ hops =>
      obtain ⟨others, rfl⟩ := hops.begins
      exact .inr ⟨_, others, written, rfl⟩

theorem Transport.request_not_isTimeout {fault : Fault}
    (unwritten : transport.request world call client = .error fault) :
    Retry.isTimeout fault = false := by
  obtain ⟨_, rfl⟩ | ⟨_, rfl⟩ | ⟨_, rfl, _⟩ := Call.request_eq_error unwritten
  · rfl
  · rfl
  · rfl

/-- An attempt sends a request, unless the client is closed or there is no request. -/
theorem Attempt.sent_or_unsent {result : Except Fault Reply}
    (attempt : Attempt transport client isOpen call world events result after) :
    (∃ request, .sent request ∈ events) ∨ result = .error .clientClosed ∨
      ∃ fault, transport.request world call client = .error fault ∧ result = .error fault := by
  cases attempt with
  | unwritable written => exact .inr (.inr ⟨_, written, rfl⟩)
  | closed => exact .inr (.inl rfl)
  | sent _ _ hops =>
      obtain ⟨others, rfl⟩ := hops.begins
      exact .inl ⟨_, List.mem_cons_of_mem _ (List.mem_cons_self ..)⟩

/-- A call sends a request, unless it is cancelled at once, the client is closed or there is no request. -/
theorem Course.sent_or_unsent {left pauses : Nat} {result : Except Stop Reply}
    (course : Course transport client isOpen call left pauses world events result after) :
    (∃ request, .sent request ∈ events) ∨ (∃ moment url, result = .error (.cancelled moment url)) ∨
      result = .error (.fault .clientClosed) ∨
      ∃ begun fault, transport.isCancelled world = (false, begun) ∧
        transport.request begun call client = .error fault ∧ result = .error (.fault fault) := by
  cases course with
  | cancelledBefore => exact .inr (.inl ⟨_, _, rfl⟩)
  | cancelledDuring => exact .inr (.inl ⟨_, _, rfl⟩)
  | replied _ attempt _ =>
      obtain sent | impossible | ⟨_, _, impossible⟩ := attempt.sent_or_unsent
      · exact .inl sent
      all_goals cases impossible
  | failed uncancelled attempt _ =>
      obtain sent | same | ⟨fault, unwritten, same⟩ := attempt.sent_or_unsent
      · exact .inl sent
      · cases same
        exact .inr (.inr (.inl rfl))
      · cases same
        exact .inr (.inr (.inr ⟨_, _, uncancelled, unwritten, rfl⟩))
  | repeated _ attempt timedOut _ =>
      -- Only a request that has been sent can time out.
      obtain ⟨request, sent⟩ | same | ⟨fault, unwritten, same⟩ := attempt.sent_or_unsent
      · exact .inl ⟨request, List.mem_append_left _ sent⟩
      · cases same
        cases timedOut
      · cases same
        rw [Transport.request_not_isTimeout unwritten] at timedOut
        cases timedOut

/-- Of what an attempt and a pause after it leave behind, the attempt issues one request at most. -/
theorem Attempt.issued_append {result : Except Fault Reply} {rest : List Event}
    (attempt : Attempt transport client isOpen call world events result after)
    (follows : rest = [] ∨ ∃ seconds later, rest = .paused seconds :: later)
    (member : request ∈ issued (events ++ rest)) :
    (∃ first, transport.request world call client = .ok first ∧
        request = first.withCredentials) ∨
      request ∈ issued rest := by
  obtain rfl | ⟨first, others, written, rfl⟩ := attempt.begins
  · obtain rfl | ⟨seconds, later, rfl⟩ := follows
    · exact .inr member
    · exact .inr member
  · simp only [List.cons_append, issued_called_sent, issued_sent, List.mem_cons] at member
    obtain rfl | later := member
    · exact .inl ⟨first, written, rfl⟩
    · exact .inr later

theorem Attempt.issued {result : Except Fault Reply}
    (attempt : Attempt transport client isOpen call world events result after)
    (member : request ∈ issued events) :
    ∃ first, transport.request world call client = .ok first ∧ request = first.withCredentials := by
  rw [← List.append_nil events] at member
  obtain found | nothing := attempt.issued_append (.inl rfl) member
  · exact found
  · cases nothing

theorem Course.issued {left pauses : Nat} {result : Except Stop Reply}
    (course : Course transport client isOpen call left pauses world events result after)
    (member : request ∈ issued events) :
    ∃ begun first, transport.request begun call client = .ok first ∧
      request = first.withCredentials := by
  induction course with
  | cancelledBefore => cases member
  | cancelledDuring _ attempt _ => exact ⟨_, attempt.issued member⟩
  | replied _ attempt _ => exact ⟨_, attempt.issued member⟩
  | failed _ attempt _ => exact ⟨_, attempt.issued member⟩
  | repeated _ attempt _ _ ih =>
      obtain found | later := attempt.issued_append (.inr ⟨_, _, rfl⟩) member
      · exact ⟨_, found⟩
      · exact ih later

theorem Request.url_withCredentials (request : Request) :
    request.withCredentials.url = request.url := by
  simp only [Request.withCredentials]
  split <;> rfl

/-- An address without a scheme or a host is placed where there is neither. -/
theorem Url.nowhere_belowRoot {names : Url.HostNames} {url below : Url}
    (placed : url.belowRoot names = .ok below) : below.scheme = "" ∧ below.host = "" := by
  obtain ⟨host, port, named, _, _, rfl⟩ := Url.ofParts_eq_ok_iff.mp (Url.ofParts_of_ofTexts placed)
  cases named
  exact ⟨rfl, rfl⟩

/-- Without parameters the address of a request is the one that is called if that is absolute, and has
neither scheme nor host if it is not. -/
theorem Call.address_of_request {names : Url.HostNames} {cookies : Cookies}
    (bare : call.parameters = none) (written : call.request names cookies client = .ok request) :
    ∃ read, Url.parse names call.url = .ok read ∧
      (read.isAbsolute = true ∧ request.url = read ∨
        read.isAbsolute = false ∧ request.url.scheme = "" ∧ request.url.host = "") := by
  obtain ⟨url, _, _, _, drafted, _, _, rfl⟩ := Call.request_eq_ok written
  obtain ⟨base, _, based, _, targeted, _⟩ := Call.draft_eq_ok drafted
  have same : base = url := by simpa [Call.targetUrl, bare] using targeted
  subst same
  obtain ⟨read, parsed, placed⟩ := Result.bind_eq_ok.mp based
  refine ⟨read, parsed, ?_⟩
  cases absolute : read.isAbsolute with
  | true =>
      rw [absolute, if_pos rfl] at placed
      cases placed
      exact .inl ⟨rfl, rfl⟩
  | false =>
      rw [absolute, if_neg Bool.false_ne_true] at placed
      exact .inr ⟨rfl, Url.nowhere_belowRoot placed⟩

end Issued

end ImageOwnership.Http
