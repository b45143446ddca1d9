import ImageOwnership.Proofs.Http.Alike
import ImageOwnership.Proofs.Requests

/-!
What counts in a list of manifests. Where the manifest of a tag is a list, another list with the same
first entry may stand in its place: the validation goes the same way to the same result.
-/

namespace ImageOwnership

open Http

variable {World : Type}

/-- A list that may stand for another one in the answer to a request for the manifest of a tag: both
decode, with the same first entry. Only a client that wants such manifests in all its requests cannot
tell these from requests for tokens, and then both have to give the same token. -/
def IndexSwap (client : Client) (request : Request) (body other : List UInt8) : Prop :=
  request.headers.get? "accept" = some Registry.tagAccept ∧
    (client.headers.get? "accept" = some Registry.tagAccept → Token.read body = Token.read other) ∧
    ∃ index swapped digest later others, Image.Manifest.read body = .ok index ∧
      Image.Manifest.read other = .ok swapped ∧ index.platforms = digest :: later ∧
      swapped.platforms = digest :: others

/-- The manifest of the tag is told from the other documents by what is accepted for it. -/
theorem Stage.accept_eq_tagAccept_iff {stage : Stage} :
    stage.accept = Registry.tagAccept ↔ stage = .tag := by
  cases stage with
  | tag => simp [accept]
  | platform digest =>
      have different : Registry.platformAccept ≠ Registry.tagAccept := by decide +kernel
      simp [accept, different]
  | config digest =>
      have different : Registry.configAccept ≠ Registry.tagAccept := by decide +kernel
      simp [accept, different]

section Swap

variable {first second : Transport World} {registry : Registry} {image : Image.Reference}
  {isOpen : Bool} {world after : World} {exchanges : List Exchange}
  {result : Except Failure Image.Labels}

theorem Registry.reading_swapped {body other : List UInt8} {request : Request}
    (swap : IndexSwap registry.client request body other) :
    registry.reading image .tag body = registry.reading image .tag other := by
  obtain ⟨_, _, index, swapped, digest, later, others, read, again, entries, same⟩ := swap
  simp only [reading, decoding, read, again, tagged, entries, same]

theorem Conversation.after_alike {position : Position}
    (conversation : Conversation first registry image isOpen position world exchanges result after)
    {exchange : Exchange} (member : exchange ∈ exchanges) {ending : Except Stop Reply}
    (alike : EndingAlike (IndexSwap registry.client) exchange.events exchange.ending ending) :
    registry.after image exchange.purpose ending =
      registry.after image exchange.purpose exchange.ending := by
  obtain ⟨purpose, events, given⟩ := exchange
  cases alike with
  | same => rfl
  | @swapped request url status location body other sent swap =>
      simp only [Registry.after, Reply.status, Reply.body]
      by_cases success : status = 200
      · simp only [success, if_true]
        cases purpose with
        | token url stage =>
            have accepted := conversation.token_accept member rfl sent
            have same : Token.read body = Token.read other := by
              apply swap.2.1
              rw [← accepted]
              exact swap.1
            simp only [Registry.receiving, Registry.granting, same]
        | document stage bearer =>
            have accepted := (conversation.carries member rfl sent).accept
            rw [swap.1, Option.some.injEq] at accepted
            cases Stage.accept_eq_tagAccept_iff.mp accepted.symm
            exact (Registry.reading_swapped swap).symm
      · simp only [success, if_false]

/-- Where transports swap nothing but such lists, conversations leave the same events and come to the
same result. -/
theorem Conversation.alike (alike : first.Alike (IndexSwap registry.client) second)
    {position : Position}
    (conversation : Conversation first registry image isOpen position world exchanges result after) :
    ∃ others, Conversation second registry image isOpen position world others result after ∧
      others.flatMap Exchange.events = exchanges.flatMap Exchange.events := by
  induction conversation with
  | finished => exact ⟨[], .finished, rfl⟩
  | @calls purpose world events ending middle exchanges result after course rest ih =>
      obtain ⟨others, following, same⟩ := ih
      obtain ⟨other, again, ends⟩ := course.alike alike
      have made := Conversation.calls course rest
      have position : registry.after image purpose other = registry.after image purpose ending :=
        made.after_alike List.mem_cons_self ends
      rw [← position] at following
      exact ⟨⟨purpose, events, other⟩ :: others, .calls again following, by simp [same]⟩

end Swap

namespace Claim

variable {claim : Claim} {target : Target} {environment : Settings.Environment} {registry : Registry}

/-- No entry after the first one, and no config digest of a list, has a part in a validation. -/
theorem validateImage_alike {transport other : Transport World}
    (settled : claim.target environment = .ok target) (made : claim.made target = .ok registry)
    (alike : transport.Alike (IndexSwap registry.client) other) (run : Run World Log.Entry) :
    (Action.perform (claim.validateImage other environment) run).1 =
        (Action.perform (claim.validateImage transport environment) run).1 ∧
      (Action.perform (claim.validateImage other environment) run).2.trace =
        (Action.perform (claim.validateImage transport environment) run).2.trace := by
  obtain ⟨exchanges, fetched, world, notes, conversation, performed⟩ :=
    perform_validateImage transport settled made run
  obtain ⟨others, again, final, more, second, repeated⟩ :=
    perform_validateImage other settled made run
  obtain ⟨swapped, along, same⟩ := conversation.alike alike
  obtain ⟨rfl, rfl, rfl⟩ := second.unique along
  have leaving : registry.leaving other run.isOpen = registry.leaving transport run.isOpen := by
    funext world
    simp only [Registry.leaving, alike.close]
  rw [performed, repeated, leaving, alike.isCancelled]
  refine ⟨rfl, ?_⟩
  simp [Registry.left, same]

end Claim

end ImageOwnership
