import ImageOwnership.Proofs.Session
import ImageOwnership.Proofs.Http.Headers

/-!
What the requests of a validation carry, through repetitions and redirects: those for a document what its
stage wants, those for a token what the client accepts by itself.
-/

namespace ImageOwnership

open Http

/-- A request with the accept header, the user agent and the timeout that are wanted. -/
structure Http.Request.Carries (request : Request) (accept userAgent : String) (timeout : Timeout) :
    Prop where
  accept : request.headers.get? "accept" = some accept
  userAgent : request.headers.get? "user-agent" = some userAgent
  timeout : request.timeout = timeout

namespace Conversation

variable {World : Type} {transport : Transport World} {registry : Registry}
  {image : Image.Reference} {isOpen : Bool} {world after : World} {exchanges : List Exchange}
  {result : Except Failure Image.Labels}

theorem carries {position : Position}
    (conversation : Conversation transport registry image isOpen position world exchanges result
      after)
    {exchange : Exchange} (member : exchange ∈ exchanges) {stage : Stage}
    {bearer : Option (List CodePoint)} (asked : exchange.purpose = .document stage bearer)
    {request : Request} (sent : .sent request ∈ exchange.events) :
    request.Carries stage.accept registry.settings.userAgent registry.settings.timeout := by
  obtain ⟨_, _, course⟩ := conversation.coursed member
  obtain ⟨_, first, written, akin⟩ := course.akin sent
  obtain ⟨given, headers, timeout, kept⟩ := Call.request_headers written
  rw [asked] at headers timeout
  obtain ⟨accept, userAgent⟩ := Headers.write_requestHeaders headers
  refine ⟨?_, ?_, akin.timeout.trans timeout⟩
  · rw [akin.headers _ (by decide), kept _ (by decide) (by decide)]
    exact Headers.get?_update accept
  · rw [akin.headers _ (by decide), kept _ (by decide) (by decide)]
    exact Headers.get?_update userAgent

theorem token_accept {position : Position}
    (conversation : Conversation transport registry image isOpen position world exchanges result
      after)
    {exchange : Exchange} (member : exchange ∈ exchanges) {url : String} {stage : Stage}
    (asked : exchange.purpose = .token url stage) {request : Request}
    (sent : .sent request ∈ exchange.events) :
    request.headers.get? "accept" = registry.client.headers.get? "accept" := by
  obtain ⟨_, _, course⟩ := conversation.coursed member
  obtain ⟨_, first, written, akin⟩ := course.akin sent
  rw [asked] at written
  rw [akin.headers _ (by decide)]
  exact Call.accept_of_bare rfl written

end Conversation

end ImageOwnership
