import ImageOwnership.Proofs.Http.Course

/-!
Transports that differ in nothing but some bodies. What may stand for which body is told by a relation on
the requests that are answered. Such transports lead a call along the same course, down to the body of
the last reply.
-/

namespace ImageOwnership.Http

variable {World : Type}

/-- An answer, and the same answer but for its body. -/
inductive AnswerAlike (swaps : Request → List UInt8 → List UInt8 → Prop) (request : Request) :
    Except RequestError Response × World → Except RequestError Response × World → Prop where
  | same {answer : Except RequestError Response × World} : AnswerAlike swaps request answer answer
  | swapped {status : Nat} {location : Option String} {body other : List UInt8} {world : World}
      (swap : swaps request body other) :
      AnswerAlike swaps request (.ok ⟨status, location, body⟩, world)
        (.ok ⟨status, location, other⟩, world)

/-- Two transports that answer alike and agree in all else. -/
structure Transport.Alike (swaps : Request → List UInt8 → List UInt8 → Prop)
    (first second : Transport World) : Prop where
  names : first.names = second.names
  respond : ∀ request world,
    AnswerAlike swaps request (first.respond request world) (second.respond request world)
  cookies : first.cookies = second.cookies
  pause : first.pause = second.pause
  close : first.close = second.close
  isCancelled : first.isCancelled = second.isCancelled

/-- An ending, and the same ending but for the body of its reply, where one of the requests that went out
allows for it. -/
inductive EndingAlike (swaps : Request → List UInt8 → List UInt8 → Prop) (events : List Event)
    {Failure : Type} : Except Failure Reply → Except Failure Reply → Prop where
  | same {ending : Except Failure Reply} : EndingAlike swaps events ending ending
  | swapped {request : Request} {url : Url} {status : Nat} {location : Option String}
      {body other : List UInt8} (sent : .sent request ∈ events) (swap : swaps request body other) :
      EndingAlike swaps events (.ok ⟨url, ⟨status, location, body⟩⟩)
        (.ok ⟨url, ⟨status, location, other⟩⟩)

variable {swaps : Request → List UInt8 → List UInt8 → Prop} {first second : Transport World}
  {client : Client} {isOpen : Bool} {call : Call} {world after : World} {events : List Event}

theorem EndingAlike.weaken {Failure : Type} {ending other : Except Failure Reply} {more : List Event}
    (alike : EndingAlike swaps events ending other) (kept : ∀ event ∈ events, event ∈ more) :
    EndingAlike swaps more ending other := by
  cases alike with
  | same => exact .same
  | swapped sent swap => exact .swapped (kept _ sent) swap

/-- Endings that are alike in one kind of failure are alike in any other. -/
theorem EndingAlike.ok (Other : Type) {Failure : Type} {reply : Reply} {other : Except Failure Reply}
    (alike : EndingAlike swaps events (.ok reply) other) :
    ∃ instead, other = .ok instead ∧
      EndingAlike swaps events (.ok reply : Except Other Reply) (.ok instead) := by
  cases alike with
  | same => exact ⟨reply, rfl, .same⟩
  | swapped sent swap => exact ⟨_, rfl, .swapped sent swap⟩

theorem EndingAlike.error {Failure : Type} {failure : Failure} {other : Except Failure Reply}
    (alike : EndingAlike swaps events (.error failure) other) : other = .error failure := by
  cases alike
  rfl

theorem Answered.alike_error (alike : first.Alike swaps second) {request : Request} {fault : Fault}
    (answered : Answered first request world (.error fault) after) :
    Answered second request world (.error fault) after := by
  have same := alike.respond request world
  generalize given : second.respond request world = other at same
  cases answered with
  | failed answer =>
      rw [answer] at same
      cases same
      exact .failed given
  | unreadable answer host =>
      rw [answer] at same
      cases same with
      | same => exact .unreadable given host
      | swapped _ => exact .unreadable given host

theorem Answered.alike_ok (alike : first.Alike swaps second) {request : Request} {response : Response}
    (answered : Answered first request world (.ok response) after) :
    ∃ other, Answered second request world (.ok other) after ∧
      other.redirect? = response.redirect? ∧
      EndingAlike swaps [.sent request] (.ok ⟨request.url, response⟩ : Except Fault Reply)
        (.ok ⟨request.url, other⟩) := by
  have same := alike.respond request world
  generalize given : second.respond request world = other at same
  cases answered with
  | delivered answer host =>
      rw [answer] at same
      cases same with
      | same => exact ⟨response, .delivered given host, rfl, .same⟩
      | swapped swap =>
          exact ⟨_, .delivered given host, rfl, .swapped (List.mem_singleton_self _) swap⟩

/-- Transports that are alike lead to the same requests. -/
theorem Transport.Alike.next_eq (alike : first.Alike swaps second) : first.next = second.next := by
  funext world request location
  rw [Transport.next, Transport.next, alike.names, alike.cookies]

theorem Transport.Alike.request_eq (alike : first.Alike swaps second) :
    first.request = second.request := by
  funext world call client
  rw [Transport.request, Transport.request, alike.names, alike.cookies]

theorem Hops.alike (alike : first.Alike swaps second) {left : Nat} {request : Request}
    {result : Except Fault Reply}
    (hops : Hops first left request world events result after) :
    ∃ other, Hops second left request world events other after ∧
      EndingAlike swaps events result other := by
  induction hops with
  | failed answered => exact ⟨_, .failed (answered.alike_error alike), .same⟩
  | arrived answered stays =>
      obtain ⟨_, answered, redirect, ending⟩ := answered.alike_ok alike
      exact ⟨_, .arrived answered (redirect.trans stays), ending⟩
  | astray answered redirected lost =>
      rw [alike.next_eq] at lost
      obtain ⟨_, answered, redirect, _⟩ := answered.alike_ok alike
      exact ⟨_, .astray answered (redirect.trans redirected) lost, .same⟩
  | tooMany answered redirected found =>
      rw [alike.next_eq] at found
      obtain ⟨_, answered, redirect, _⟩ := answered.alike_ok alike
      exact ⟨_, .tooMany answered (redirect.trans redirected) found, .same⟩
  | onward answered redirected found _ ih =>
      rw [alike.next_eq] at found
      obtain ⟨other, rest, ending⟩ := ih
      obtain ⟨_, answered, redirect, _⟩ := answered.alike_ok alike
      exact ⟨other, .onward answered (redirect.trans redirected) found rest,
        ending.weaken fun _ => List.mem_cons_of_mem _⟩

theorem Attempt.alike (alike : first.Alike swaps second) {result : Except Fault Reply}
    (attempt : Attempt first client isOpen call world events result after) :
    ∃ other, Attempt second client isOpen call world events other after ∧
      EndingAlike swaps events result other := by
  cases attempt with
  | unwritable written => exact ⟨_, .unwritable (alike.request_eq ▸ written), .same⟩
  | closed written shut => exact ⟨_, .closed (alike.request_eq ▸ written) shut, .same⟩
  | sent written opened hops =>
      rw [alike.request_eq] at written
      obtain ⟨other, hops, ending⟩ := hops.alike alike
      exact ⟨other, .sent written opened hops, ending.weaken fun _ => List.mem_cons_of_mem _⟩

/-- Where transports are alike, a call takes the same course to endings that are alike. -/
theorem Course.alike (alike : first.Alike swaps second) {left pauses : Nat}
    {result : Except Stop Reply}
    (course : Course first client isOpen call left pauses world events result after) :
    ∃ other, Course second client isOpen call left pauses world events other after ∧
      EndingAlike swaps events result other := by
  induction course with
  | cancelledBefore cancelled =>
      rw [alike.isCancelled] at cancelled
      exact ⟨_, .cancelledBefore cancelled, .same⟩
  | cancelledDuring uncancelled attempt cancelled =>
      rw [alike.isCancelled] at uncancelled cancelled
      obtain ⟨other, attempt, ending⟩ := attempt.alike alike
      obtain ⟨reply, rfl, _⟩ := ending.ok Stop
      exact ⟨_, .cancelledDuring uncancelled attempt cancelled, .same⟩
  | replied uncancelled attempt still =>
      rw [alike.isCancelled] at uncancelled still
      obtain ⟨other, attempt, ending⟩ := attempt.alike alike
      obtain ⟨reply, rfl, stopped⟩ := ending.ok Stop
      exact ⟨_, .replied uncancelled attempt still, stopped⟩
  | failed uncancelled attempt final =>
      rw [alike.isCancelled] at uncancelled
      obtain ⟨other, attempt, ending⟩ := attempt.alike alike
      rw [ending.error] at attempt
      exact ⟨_, .failed uncancelled attempt final, .same⟩
  | repeated uncancelled attempt timedOut _ ih =>
      rw [alike.isCancelled] at uncancelled
      obtain ⟨other, attempt, same⟩ := attempt.alike alike
      rw [same.error] at attempt
      obtain ⟨result, rest, ending⟩ := ih
      rw [alike.pause] at rest
      refine ⟨result, .repeated uncancelled attempt timedOut rest, ending.weaken ?_⟩
      intro event member
      exact List.mem_append_right _ (List.mem_cons_of_mem _ member)

end ImageOwnership.Http
