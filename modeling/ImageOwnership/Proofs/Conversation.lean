import ImageOwnership.Proofs.Http.Course
import ImageOwnership.Registry

/-!
Validations as conversations with a registry. A position says which call comes next or how it all ended;
the ending of a call leads to the next position. The steps of a validation are told by the conversation
that begins at their position, call by call and event by event.
-/

namespace ImageOwnership

open Http

/-- The documents that a validation reads. -/
inductive Stage where
  | tag
  | platform (digest : String)
  | config (digest : String)
deriving DecidableEq, Repr

namespace Stage

def url (registry : Registry) (image : Image.Reference) : Stage → String
  | tag => registry.manifestUrl image.repository image.tag
  | platform digest => registry.manifestUrl image.repository digest
  | config digest => registry.configUrl image.repository digest

def accept : Stage → String
  | tag => Registry.tagAccept
  | platform _ => Registry.platformAccept
  | config _ => Registry.configAccept

def failure (image : Image.Reference) : Stage → FetchFault → Failure
  | tag => Registry.tagFailure image
  | platform _ => .platformManifest
  | config _ => .config

end Stage

/-- What a call is for: a token from the service at an address, or a document with the token that was
handed out for it. -/
inductive Purpose where
  | token (url : String) (stage : Stage)
  | document (stage : Stage) (bearer : Option (List CodePoint))
deriving DecidableEq, Repr

namespace Purpose

def call (registry : Registry) (image : Image.Reference) : Purpose → Call
  | .token url _ =>
      ⟨url, some (Token.parameters image.repository), [], registry.settings.timeout⟩
  | .document stage bearer =>
      ⟨stage.url registry image, none, registry.requestHeaders stage.accept bearer,
        registry.settings.timeout⟩

def failed (image : Image.Reference) : Purpose → RequestError → Failure
  | .token _ _, error => .token (.request error)
  | .document stage _, error => stage.failure image (.request error)

/-- What a status that is not the one of success means. -/
def refused (image : Image.Reference) : Purpose → Nat → Failure
  | .token _ _, status => .token (.status status)
  | .document stage _, status => stage.failure image (.status status)

end Purpose

/-- Where a validation stands: at a call, or at its end. -/
inductive Position where
  | calling (purpose : Purpose)
  | ended (result : Except Failure Image.Labels)

namespace Registry

variable (registry : Registry) (image : Image.Reference)

def entering (stage : Stage) : Position :=
  match registry.authorization with
  | .anonymous => .calling (.document stage none)
  | .token url => .calling (.token url stage)

def settling (digest : String) : Position :=
  if digest.isEmpty then .ended (.error (.noConfigDigest image))
  else registry.entering (.config digest)

def granting (stage : Stage) (body : List UInt8) : Position :=
  match Token.read body with
  | .error failure => .ended (.error failure)
  | .ok token => .calling (.document stage (some token))

/-- The position after a body that should hold the document of a stage. -/
def decoding {α : Type} (stage : Stage) (decode : List UInt8 → Document.Decoded α)
    (onward : α → Position) (body : List UInt8) : Position :=
  match decode body with
  | .error faults => .ended (.error (stage.failure image (.malformed faults)))
  | .ok document => onward document

/-- The position after the manifest of a tag. Of a list only the first entry counts. -/
def tagged (manifest : Image.Manifest) : Position :=
  match manifest.platforms with
  | [] => registry.settling image manifest.config
  | digest :: _ => registry.entering (.platform digest)

def reading : Stage → List UInt8 → Position
  | .tag => decoding image .tag Image.Manifest.read (registry.tagged image)
  | .platform digest =>
      decoding image (.platform digest) Image.Manifest.read fun manifest =>
        registry.settling image manifest.config
  | .config digest =>
      decoding image (.config digest) Image.Config.read fun config => .ended (.ok config.labels)

def receiving : Purpose → List UInt8 → Position
  | .token _ stage, body => granting stage body
  | .document stage _, body => registry.reading image stage body

/-- The position after a call. -/
def after (purpose : Purpose) : Except Stop Reply → Position
  | .error (.fault (.request error)) => .ended (.error (purpose.failed image error))
  | .error stop => .ended (.error (.stopped stop))
  | .ok reply =>
      if reply.status = 200 then registry.receiving image purpose reply.body
      else .ended (.error (purpose.refused image reply.status))

theorem entering_calling (stage : Stage) :
    ∃ purpose, registry.entering stage = .calling purpose := by
  unfold entering
  cases registry.authorization with
  | anonymous => exact ⟨_, rfl⟩
  | token url => exact ⟨_, rfl⟩

variable {registry image} {purpose : Purpose} {reply : Reply}

theorem after_success (success : reply.status = 200) :
    registry.after image purpose (.ok reply) = registry.receiving image purpose reply.body :=
  if_pos success

theorem after_refused (other : reply.status ≠ 200) :
    registry.after image purpose (.ok reply) =
      .ended (.error (purpose.refused image reply.status)) :=
  if_neg other

theorem after_error (registry : Registry) (image : Image.Reference) (purpose : Purpose) (stop : Stop) :
    ∃ failure, registry.after image purpose (.error stop) = .ended (.error failure) := by
  rcases stop with ⟨_ | _⟩ | _ <;> exact ⟨_, rfl⟩

end Registry

/-- A call that was made: what for, the events that it left behind, and how it ended. -/
structure Exchange where
  purpose : Purpose
  events : List Event
  ending : Except Stop Reply

variable {World : Type}

/-- The calls from a position to the end, each from the world that the one before it left. -/
inductive Conversation (transport : Transport World) (registry : Registry) (image : Image.Reference)
    (isOpen : Bool) :
    Position → World → List Exchange → Except Failure Image.Labels → World → Prop where
  | finished {result world} :
      Conversation transport registry image isOpen (.ended result) world [] result world
  | calls {purpose world events ending middle exchanges result after}
      (course : Course transport registry.client isOpen (purpose.call registry image)
        registry.settings.retries 0 world events ending middle)
      (rest : Conversation transport registry image isOpen (registry.after image purpose ending)
        middle exchanges result after) :
      Conversation transport registry image isOpen (.calling purpose) world
        (⟨purpose, events, ending⟩ :: exchanges) result after

namespace Conversation

variable {transport : Transport World} {registry : Registry} {image : Image.Reference}
  {isOpen : Bool} {world after : World} {exchanges : List Exchange}
  {result : Except Failure Image.Labels}

/-- Once a call is due there is a last one, and its ending is what the conversation comes to. -/
theorem concluded {purpose : Purpose}
    (conversation : Conversation transport registry image isOpen (.calling purpose) world exchanges
      result after) :
    ∃ earlier last, exchanges = earlier ++ [last] ∧
      registry.after image last.purpose last.ending = .ended result := by
  generalize due : Position.calling purpose = position at conversation
  -- After a call either it is all over, and that call was the last one, or another call is due.
  induction conversation generalizing purpose with
  | finished => cases due
  | @calls made world events ending middle exchanges result after course rest ih =>
      cases next : registry.after image made ending with
      | ended last =>
          rw [next] at rest
          cases rest
          exact ⟨[], ⟨made, events, ending⟩, rfl, next⟩
      | calling following =>
          obtain ⟨earlier, last, rfl, ended⟩ := ih next.symm
          exact ⟨⟨made, events, ending⟩ :: earlier, last, rfl, ended⟩

theorem concluded_entering {stage : Stage}
    (conversation : Conversation transport registry image isOpen (registry.entering stage) world
      exchanges result after) :
    ∃ earlier last, exchanges = earlier ++ [last] ∧
      registry.after image last.purpose last.ending = .ended result := by
  obtain ⟨purpose, calling⟩ := registry.entering_calling stage
  rw [calling] at conversation
  exact conversation.concluded

/-- A call that puts an end to a conversation settles what it comes to. -/
theorem ended {position : Position} {exchange : Exchange} {other : Except Failure Image.Labels}
    (conversation : Conversation transport registry image isOpen position world exchanges result after)
    (member : exchange ∈ exchanges)
    (final : registry.after image exchange.purpose exchange.ending = .ended other) :
    result = other := by
  induction conversation with
  | finished => cases member
  | calls _ rest ih =>
      cases member with
      | head =>
          rw [final] at rest
          cases rest
          rfl
      | tail _ later => exact ih later

/-- Nothing comes after a call without a reply. -/
theorem finished_of_error {purpose : Purpose} {stop : Stop}
    (conversation : Conversation transport registry image isOpen
      (registry.after image purpose (.error stop)) world exchanges result after) :
    exchanges = [] := by
  obtain ⟨failure, failed⟩ := registry.after_error image purpose stop
  rw [failed] at conversation
  cases conversation
  rfl

/-- Each call of a conversation takes its course, from some world to some other. -/
theorem coursed {position : Position}
    (conversation : Conversation transport registry image isOpen position world exchanges result after)
    {exchange : Exchange} (member : exchange ∈ exchanges) :
    ∃ before middle, Course transport registry.client isOpen (exchange.purpose.call registry image)
      registry.settings.retries 0 before exchange.events exchange.ending middle := by
  induction conversation with
  | finished => cases member
  | calls course _ ih =>
      cases member with
      | head => exact ⟨_, _, course⟩
      | tail _ later => exact ih later

/-- From one position and one world there is one conversation. -/
theorem unique {position : Position} {final : World} {others : List Exchange}
    {other : Except Failure Image.Labels}
    (conversation : Conversation transport registry image isOpen position world exchanges result after)
    (second : Conversation transport registry image isOpen position world others other final) :
    exchanges = others ∧ result = other ∧ after = final := by
  induction conversation generalizing others with
  | finished =>
      cases second
      exact ⟨rfl, rfl, rfl⟩
  | calls course _ ih =>
      cases second with
      | calls anew rest =>
          obtain ⟨rfl, rfl, rfl⟩ := course.unique anew
          obtain ⟨rfl, rfl, rfl⟩ := ih rest
          exact ⟨rfl, rfl, rfl⟩

end Conversation

/-- A step that is told by the conversation from a position, from whatever run it starts. -/
def Position.Tells (transport : Transport World) (registry : Registry) (image : Image.Reference)
    (position : Position) (action : Registry.Action World Image.Labels) : Prop :=
  ∀ run : Run World Log.Entry, ∃ exchanges result world notes,
    Conversation transport registry image run.isOpen position run.world exchanges result world ∧
      Action.perform action run =
        (result, (run.advance (exchanges.flatMap Exchange.events) world).noting notes)

namespace Position

variable {transport : Transport World} {registry : Registry} {image : Image.Reference}
  {position : Position} {action : Registry.Action World Image.Labels}

theorem tells_ended (result : Except Failure Image.Labels) :
    (ended result).Tells transport registry image (Action.ofExcept result) := by
  intro run
  refine ⟨[], result, run.world, [], .finished, ?_⟩
  simp [Run.advance_nothing, Run.noting_nothing]

theorem tells_failed {α : Type} (failure : Failure) (next : α → Registry.Action World Image.Labels) :
    (ended (.error failure)).Tells transport registry image (throw failure >>= next) := by
  intro run
  refine ⟨[], .error failure, run.world, [], .finished, ?_⟩
  simp [Run.advance_nothing, Run.noting_nothing]

theorem Tells.noted (told : position.Tells transport registry image action) (entry : Log.Entry) :
    position.Tells transport registry image (Action.note entry >>= fun _ => action) := by
  intro run
  obtain ⟨exchanges, result, world, notes, conversation, performed⟩ := told (run.noting [entry])
  refine ⟨exchanges, result, world, [entry] ++ notes, conversation, ?_⟩
  simp [performed]

theorem tells_calling {purpose : Purpose}
    {next : Except Stop Reply → Registry.Action World Image.Labels}
    (told : ∀ ending, (registry.after image purpose ending).Tells transport registry image
      (next ending)) :
    (calling purpose).Tells transport registry image
      (registry.call transport (purpose.call registry image).url
        (purpose.call registry image).parameters (purpose.call registry image).headers >>= next) := by
  intro run
  obtain ⟨events, ending, middle, course⟩ := Course.exists transport registry.client run.isOpen
    (purpose.call registry image) registry.settings.retries 0 run.world
  obtain ⟨exchanges, result, world, notes, conversation, performed⟩ :=
    told ending (run.advance events middle)
  refine ⟨_, result, world, notes, .calls course conversation, ?_⟩
  have same : (⟨(purpose.call registry image).url, (purpose.call registry image).parameters,
      (purpose.call registry image).headers, registry.settings.timeout⟩ : Call) =
      purpose.call registry image := by
    cases purpose <;> rfl
  rw [Action.perform_bind, Registry.call, Action.perform_outcome, Retry.get, same,
    course.performed rfl rfl]
  simp [performed]

/-- A call whose failures are those of its purpose, and what follows from a body. -/
theorem tells_reply {α : Type} {purpose : Purpose} (received : List UInt8 → Registry.Action World α)
    {next : α → Registry.Action World Image.Labels}
    (told : ∀ body, (registry.receiving image purpose body).Tells transport registry image
      (received body >>= next)) :
    (calling purpose).Tells transport registry image
      (registry.call transport (purpose.call registry image).url
          (purpose.call registry image).parameters (purpose.call registry image).headers >>=
        fun ending =>
          (match ending with
            | .error (.fault (.request error)) => throw (purpose.failed image error)
            | .error stop => throw (.stopped stop)
            | .ok reply =>
                if reply.status = 200 then received reply.body
                else throw (purpose.refused image reply.status)) >>= next) := by
  refine tells_calling ?_
  intro ending
  rcases ending with (⟨⟨_⟩ | _⟩ | _) | reply
  case ok =>
    by_cases success : reply.status = 200
    · simp only [Registry.after_success success, success, if_true]
      exact told reply.body
    · simp only [Registry.after_refused success, success, if_false]
      exact tells_failed _ next
  all_goals exact tells_failed _ next

theorem tells_decoding {α : Type} {stage : Stage} {decode : List UInt8 → Document.Decoded α}
    {next : α → Registry.Action World Image.Labels} {onward : α → Position}
    (told : ∀ document, (onward document).Tells transport registry image (next document))
    (body : List UInt8) :
    (Registry.decoding image stage decode onward body).Tells transport registry image
      (Action.ofExcept ((decode body).mapError (stage.failure image ∘ .malformed)) >>= next) := by
  unfold Registry.decoding
  cases decode body with
  | error faults => exact tells_failed _ next
  | ok document => exact told document

/-- A fetch, which asks for a token first where tokens are handed out. -/
theorem tells_fetch {α : Type} {stage : Stage} {decode : List UInt8 → Document.Decoded α}
    {next : α → Registry.Action World Image.Labels} {onward : α → Position}
    (told : ∀ document, (onward document).Tells transport registry image (next document))
    (reads : registry.reading image stage = Registry.decoding image stage decode onward) :
    (registry.entering stage).Tells transport registry image
      (registry.fetch transport decode (stage.failure image) stage.accept image.repository
        (stage.url registry image) >>= next) := by
  have read (bearer : Option (List CodePoint)) (body : List UInt8) :
      (registry.receiving image (.document stage bearer) body).Tells transport registry image
        (Action.ofExcept ((decode body).mapError (stage.failure image ∘ .malformed)) >>= next) := by
    rw [Registry.receiving, reads]
    exact tells_decoding told body
  have replied (bearer : Option (List CodePoint)) := tells_reply _ (read bearer)
  cases authorization : registry.authorization with
  | anonymous =>
      simp only [Registry.entering, Registry.fetch, Registry.authorize, authorization, pure_bind,
        bind_assoc]
      exact replied none
  | token url =>
      simp only [Registry.entering, Registry.fetch, Registry.authorize, Registry.requestToken,
        authorization, bind_assoc, pure_bind]
      apply Tells.noted
      refine tells_reply (fun body => Action.ofExcept (Token.read body)) ?_
      intro body
      rw [Registry.receiving, Registry.granting]
      cases Token.read body with
      | error failure => exact tells_failed _ _
      | ok token =>
          simp only [Action.ofExcept_ok, pure_bind]
          exact replied (some token)

theorem tells_config (digest : String) :
    (registry.entering (.config digest)).Tells transport registry image
      (registry.labels transport image digest) := by
  unfold Registry.labels
  refine Tells.noted ?_ _
  exact tells_fetch (fun config => tells_ended (.ok config.labels)) rfl

theorem tells_settling (manifest : Image.Manifest) :
    (registry.settling image manifest.config).Tells transport registry image
      ((do
        if manifest.config.isEmpty then
          throw (.noConfigDigest image)
        Action.note (.foundConfig image manifest.config)
        return manifest.config) >>= registry.labels transport image) := by
  unfold Registry.settling
  split
  · simp only [bind_assoc]
    exact tells_failed _ _
  · simp only [bind_assoc, pure_bind]
    exact (tells_config manifest.config).noted _

/-- The steps of a validation between the making of the client and its closing. -/
theorem tells_labels :
    (registry.entering .tag).Tells transport registry image
      (do
        let digest ← registry.configDigest transport image
        registry.labels transport image digest) := by
  simp only [Registry.configDigest, Registry.manifest, bind_assoc]
  refine Tells.noted ?_ _
  refine tells_fetch ?_ rfl
  intro manifest
  unfold Registry.tagged
  cases manifest.platforms with
  | nil =>
      simp only [pure_bind]
      exact tells_settling manifest
  | cons digest others =>
      simp only [bind_assoc]
      refine Tells.noted ?_ _
      exact tells_fetch tells_settling rfl

end Position

end ImageOwnership
