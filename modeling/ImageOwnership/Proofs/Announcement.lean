import ImageOwnership.Proofs.ExitCode
import ImageOwnership.Proofs.RatePolicy

/-!
The line on the standard output. It is written for an owner that a config was seen to name, and for an
owner of whom nothing was seen because the registry limits the rate of requests and this is forgiven.
-/

namespace ImageOwnership

open Http

variable {World : Type}

/-- A config is delivered with the status of success, and its labels name the owner. -/
inductive Exchange.Proves (owner : String) : Exchange → Prop where
  | config {digest bearer events reply config} (success : reply.status = 200)
      (decoded : Image.Config.read reply.body = .ok config)
      (bound : config.labels.lookup ownerLabel = some owner) :
      Proves owner ⟨.document (.config digest) bearer, events, .ok reply⟩

theorem Exchange.Proves.ended {owner : String} {exchange : Exchange}
    (proves : exchange.Proves owner) (registry : Registry) (image : Image.Reference) :
    ∃ labels, registry.after image exchange.purpose exchange.ending = .ended (.ok labels) ∧
      labels.lookup ownerLabel = some owner := by
  cases proves with
  | @config digest bearer events reply config success decoded bound =>
      refine ⟨config.labels, ?_, bound⟩
      simp only [Registry.after_success success, Registry.receiving, Registry.reading,
        Registry.decoding, decoded]

section Conversations

variable {transport : Transport World} {registry : Registry} {image : Image.Reference} {isOpen : Bool}
  {world after : World} {exchanges : List Exchange} {fetched : Except Failure Image.Labels}

theorem Conversation.proves_iff {stage : Stage} {owner : String}
    (conversation : Conversation transport registry image isOpen (registry.entering stage) world
      exchanges fetched after) :
    (∃ labels, fetched = .ok labels ∧ labels.lookup ownerLabel = some owner) ↔
      ∃ exchange ∈ exchanges, exchange.Proves owner := by
  constructor
  · rintro ⟨labels, rfl, bound⟩
    obtain ⟨earlier, ⟨purpose, events, ending⟩, rfl, ended⟩ := conversation.concluded_entering
    obtain ⟨digest, bearer, reply, config, rfl, rfl, success, decoded, rfl⟩ :=
      Registry.after_fetched ended
    exact ⟨_, List.mem_append_right _ (List.mem_singleton_self _), .config success decoded bound⟩
  · rintro ⟨exchange, member, proves⟩
    obtain ⟨labels, ended, bound⟩ := proves.ended registry image
    exact ⟨labels, conversation.ended member ended, bound⟩

theorem Conversation.limited_iff
    (conversation : Conversation transport registry image isOpen (registry.entering .tag) world
      exchanges fetched after) :
    (∃ named, fetched = .error (.rateLimited named)) ↔
      ∃ exchange ∈ exchanges, exchange.IsLimited ∧ exchange.purpose.isTag = true := by
  constructor
  · rintro ⟨named, rfl⟩
    exact conversation.limited_of_rateLimited
  · rintro ⟨exchange, member, limited, tagged⟩
    have refused := conversation.ended member (Registry.after_limited limited)
    obtain ⟨_ | ⟨_ | _ | _, bearer⟩, events, ending⟩ := exchange
    case document.tag => exact ⟨image, refused⟩
    all_goals cases tagged

end Conversations

namespace Command

section Announcements

variable {transport : Transport World} {surroundings : Surroundings} {invocation : Invocation}
  {world : World} {exchanges : List Exchange}

theorem Output.okLine_ne_empty (identifier version owner : String) :
    okLine identifier version owner ≠ "" := by
  intro empty
  have chars := congrArg String.toList empty
  simp [okLine, line, withoutSequencesFrom, escape] at chars

theorem perform_stdout_iff :
    (perform transport surroundings invocation world).stdout ≠ "" ↔
      ∃ descriptor, (checked transport surroundings invocation.task world).1 = .ok descriptor := by
  cases came : (checked transport surroundings invocation.task world).1 with
  | ok descriptor => simp [(perform_ok came).2.2, Output.okLine_ne_empty]
  | error failure => simp [(perform_error came).2.2]

/-- Once a registry is consulted the calls decide whether there is a line, together with the policy. -/
theorem Consults.passes_iff {descriptor : Package.Descriptor} {settings : Settings}
    {target : Claim.Target} {registry : Registry} {task : Task}
    (consults : Consults transport surroundings task world descriptor settings target registry
      exchanges) :
    (∃ found, (checked transport surroundings task world).1 = .ok found) ↔
      (∃ exchange ∈ exchanges, exchange.Proves task.owner) ∨
      settings.skipsRateLimit = true ∧
        ∃ exchange ∈ exchanges, exchange.IsLimited ∧ exchange.purpose.isTag = true := by
  obtain ⟨fetched, after, conversation, came⟩ := consults.concluded
  have passes : (∃ found, (checked transport surroundings task world).1 = .ok found) ↔
      target.conclusion ((task.claim descriptor settings).judgement target false fetched) =
        .ok () := by
    rw [came]
    cases target.conclusion ((task.claim descriptor settings).judgement target false fetched) with
    | ok _ => simp [Except.map]
    | error failure => simp [Except.map]
  rw [passes, Claim.Target.conclusion_eq_ok_iff, Claim.judgement_eq_ok_iff, consults.settings_eq]
  simp only [Claim.judgement_eq_rateLimited_iff, and_true]
  rw [conversation.limited_iff]
  exact or_congr_left conversation.proves_iff

end Announcements

/-- The line is written exactly when a call proves the owner, or when the rate is limited for the
manifest of the tag and the settings forgive it; it names what was asked for. -/
theorem perform_announces (transport : Transport World) (surroundings : Surroundings)
    (invocation : Invocation) (world : World) :
    ∃ exchanges, Calls transport surroundings invocation.task world exchanges ∧
      ((perform transport surroundings invocation world).stdout ≠ "" ↔
        (∃ exchange ∈ exchanges, exchange.Proves invocation.task.owner) ∨
        (∃ settings, Settings.ofEnvironment surroundings.environment = .ok settings ∧
          settings.skipsRateLimit = true) ∧
          ∃ exchange ∈ exchanges, exchange.IsLimited ∧ exchange.purpose.isTag = true) ∧
      ((perform transport surroundings invocation world).stdout ≠ "" →
        ∃ descriptor, invocation.task.descriptor surroundings = .ok descriptor ∧
          (perform transport surroundings invocation world).stdout =
            Output.okLine descriptor.identifier descriptor.version invocation.task.owner) := by
  have named : (perform transport surroundings invocation world).stdout ≠ "" →
      ∃ descriptor, invocation.task.descriptor surroundings = .ok descriptor ∧
        (perform transport surroundings invocation world).stdout =
          Output.okLine descriptor.identifier descriptor.version invocation.task.owner := by
    intro written
    obtain ⟨descriptor, passed⟩ := perform_stdout_iff.mp written
    exact ⟨descriptor, (checked_eq_ok_iff.mp passed).1, (perform_ok passed).2.2⟩
  obtain ⟨failure, _, failed, silent⟩ | ⟨_, settings, _, _, exchanges, consults⟩ :=
    premature_or_consults transport surroundings invocation.task world
  · refine ⟨[], .none silent, ?_, named⟩
    simp [(perform_error failed).2.2]
  · refine ⟨exchanges, .made consults, ?_, named⟩
    rw [perform_stdout_iff, consults.passes_iff, consults.configured]
    simp

/-- A registry that limits the rate of requests. -/
def limitedWorld : Script.World where
  entries := [{ answer := .ok ⟨429, none, []⟩ }]

/-- What the invocation comes to. -/
def ownTarget : Claim.Target where
  settings := ⟨Settings.defaultTimeout, 0, Settings.defaultUserAgent, Settings.defaultTokenUrl, true⟩
  origin := "https://ghcr.io"
  image := ⟨⟨"me", "server"⟩, "1"⟩

def ownRegistry (client : Client) : Registry :=
  .atOrigin ownTarget.origin ownTarget.settings .anonymous client true

theorem Consults.own {descriptor : Package.Descriptor} {settings : Settings} {target : Claim.Target}
    {registry : Registry} {world : World} {transport : Transport World} {exchanges : List Exchange}
    (consults : Consults transport plainSurroundings imageInvocation.task world descriptor settings
      target registry exchanges) :
    target = ownTarget ∧ ∃ client, registry = ownRegistry client ∧
      Client.ofUserAgent Settings.defaultUserAgent = .ok client := by
  obtain rfl : _ = descriptor := Except.ok.inj consults.obtained
  have configured : Settings.ofEnvironment plainSurroundings.environment = .ok ownTarget.settings := by
    decide +kernel
  obtain rfl : _ = settings := Except.ok.inj (configured.symm.trans consults.configured)
  have settled : (imageInvocation.task.claim ⟨.oci, "https://ghcr.io", "me/server", "1"⟩
      ownTarget.settings).target plainSurroundings.environment = .ok ownTarget := by
    decide +kernel
  obtain rfl : _ = target := Except.ok.inj (settled.symm.trans consults.exchanged.settled)
  refine ⟨rfl, ?_⟩
  have owns := Claim.made_ownsClient consults.exchanged.made rfl
  obtain ⟨client, _, rfl, given | ⟨_, written⟩⟩ := Claim.made_atOrigin consults.exchanged.made
  · cases given
  · obtain rfl : _ = true := owns
    exact ⟨client, rfl, written⟩

/-- What the one call for the manifest of the tag comes to. -/
def tagAnswer (client : Client) : Except Stop Reply × Run Script.World Log.Entry :=
  Action.perform (Retry.attempts Script.transport.unattended client
    ((Purpose.document .tag none).call (ownRegistry client) ownTarget.image) 0 0)
    { world := limitedWorld }

theorem tagAnswer_limited {client : Client}
    (written : Client.ofUserAgent Settings.defaultUserAgent = .ok client) :
    ∃ reply, (tagAnswer client).1 = .ok reply ∧ reply.status = 429 := by
  have limited : (Client.ofUserAgent Settings.defaultUserAgent).map
      (fun client => (tagAnswer client).1.map Reply.status) = .ok (.ok 429) := by
    decide +kernel
  simp only [written, Except.map, Except.ok.injEq] at limited
  cases came : (tagAnswer client).1 with
  | error stop => simp [came] at limited
  | ok reply => exact ⟨reply, rfl, by simpa [came] using limited⟩

/-- Where the rate is limited one call is made, and it proves nothing. -/
theorem Calls.unproven {exchanges : List Exchange}
    (calls : Calls Script.transport plainSurroundings imageInvocation.task limitedWorld exchanges) :
    ¬ ∃ exchange ∈ exchanges, exchange.Proves imageInvocation.task.owner := by
  cases calls with
  | none => simp
  | made consults =>
      obtain ⟨rfl, client, rfl, written⟩ := consults.own
      obtain ⟨reply, answered, limited⟩ := tagAnswer_limited written
      obtain ⟨fetched, after, conversation, _⟩ := consults.concluded
      cases conversation with
      | @calls _ _ events ending _ later _ _ course rest =>
          have performed : tagAnswer client = (ending, _) := course.performed rfl rfl
          obtain rfl : ending = .ok reply := by rw [performed] at answered; exact answered
          rw [Registry.after_refused (by omega)] at rest
          cases rest
          rintro ⟨exchange, member, proves⟩
          cases List.mem_singleton.mp member
          cases proves

/-- Where the rate is limited the line is written, and no call proves the owner. -/
theorem announced_unproven :
    (perform Script.transport plainSurroundings imageInvocation limitedWorld).stdout =
        "OK: me/server:1 belongs to me/server\n" ∧
      ∀ exchanges,
        Calls Script.transport plainSurroundings imageInvocation.task limitedWorld exchanges →
        ¬ ∃ exchange ∈ exchanges, exchange.Proves imageInvocation.task.owner := by
  constructor
  · decide +kernel
  · exact fun _ => Calls.unproven

end Command

end ImageOwnership
