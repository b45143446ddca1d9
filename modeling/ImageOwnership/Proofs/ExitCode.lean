import ImageOwnership.Http.Script
import ImageOwnership.Proofs.Attribution
import ImageOwnership.Proofs.Classification
import ImageOwnership.Proofs.Http.Budget
import ImageOwnership.Proofs.Http.Issued
import ImageOwnership.Proofs.Invocation

/-!
What an exit code tells. Some codes belong to the way in which one call ended, and are seen exactly when
a call ended in that way; one belongs to inputs that are refused, and with it something has been sent
only where a call came to a host that cannot be told.
-/

namespace ImageOwnership

open Http

variable {World : Type}

/-- A body that holds no token, and not because of its depth. -/
inductive Token.Unusable (body : List UInt8) : Prop where
  | rejected {fault : Json.AnswerFault} (unread : Json.load body = .error fault)
      (shallow : ∀ container, fault ≠ .unreadable (.tooDeep container)) : Unusable body
  | notObject {value : Json.Read} (loaded : Json.load body = .ok value)
      (other : ∀ members, value ≠ .object members) : Unusable body

/-- The exit code that the ending of a call decides by itself, for an owner. -/
inductive Exchange.Decides (owner : String) : Exchange → Nat → Prop where
  | imageNotFound {bearer events reply} (missing : reply.status = 401 ∨ reply.status = 404) :
      Decides owner ⟨.document .tag bearer, events, .ok reply⟩ 1
  | tokenRequest {url stage events error} :
      Decides owner ⟨.token url stage, events, .error (.fault (.request error))⟩ 4
  | tokenStatus {url stage events reply} (other : reply.status ≠ 200) :
      Decides owner ⟨.token url stage, events, .ok reply⟩ 4
  | tokenBody {url stage events reply} (success : reply.status = 200)
      (unusable : Token.Unusable reply.body) :
      Decides owner ⟨.token url stage, events, .ok reply⟩ 4
  | labelMissing {digest bearer events reply config} (success : reply.status = 200)
      (decoded : Image.Config.read reply.body = .ok config)
      (absent : config.labels.lookup ownerLabel = none) :
      Decides owner ⟨.document (.config digest) bearer, events, .ok reply⟩ 10
  | labelMismatch {digest bearer events reply config actual} (success : reply.status = 200)
      (decoded : Image.Config.read reply.body = .ok config)
      (bound : config.labels.lookup ownerLabel = some actual) (other : actual ≠ owner) :
      Decides owner ⟨.document (.config digest) bearer, events, .ok reply⟩ 11

/-! ### Codes and failures -/

theorem Failure.Kind.exitCode_mem (kind : Kind) : kind.exitCode ∈ [1, 2, 3, 4, 10, 11] := by
  cases kind <;> decide

theorem Failure.Kind.exitCode_eq_two_iff {kind : Kind} :
    kind.exitCode = 2 ↔ kind ∈ [.document, .value, .registryType, .baseUrl, .identifier] := by
  cases kind <;> decide

theorem Failure.exitCode_premature {failure : Failure} (premature : failure.isPremature = true) :
    failure.exitCode ∈ [2, 3] := by
  cases failure with
  | file | descriptor | settings | registryType | baseUrl | identifier | userAgent =>
      simp [exitCode, kind, Kind.exitCode]
  | _ => cases premature

theorem Failure.classified_of_exitCode {failure : Failure} (telling : failure.exitCode ∉ [2, 3]) :
    failure.isClassified = true ∧ failure.kind ≠ .cancelled := by
  constructor
  · cases failure with
    | stopped stop =>
        rcases stop with ⟨_ | _ | unknown | _⟩ | _
        case fault.host => cases unknown <;> simp [exitCode, kind, hostKind, Kind.exitCode] at telling
        all_goals simp [exitCode, kind, Kind.exitCode] at telling
    | file | descriptor | settings | userAgent | deepToken =>
        simp [exitCode, kind, Kind.exitCode] at telling
    | _ => rfl
  · intro cancelled
    simp [exitCode, cancelled, Kind.exitCode] at telling

/-- A host that cannot be told counts as an input that is refused, unless it is a form without a name. -/
theorem Failure.hostKind_of_exitCode {unknown : Url.Host.Fault}
    (refused : exitCode (.stopped (.fault (.host unknown))) = 2) : hostKind unknown = .value := by
  cases unknown with
  | unreadableName reason => simp [exitCode, kind, hostKind, Kind.exitCode] at refused
  | _ => rfl

theorem Token.read_eq_token_iff {body : List UInt8} :
    (∃ fault, Token.read body = .error (.token fault)) ↔ Token.Unusable body := by
  constructor
  · intro failed
    obtain ⟨fault, failed⟩ := failed
    unfold Token.read at failed
    split at failed
    case h_1 unread => exact .rejected unread nofun
    case h_2 unread => exact .rejected unread nofun
    case h_3 unread => exact .rejected unread nofun
    case h_4 => cases failed
    case h_5 => cases failed
    case h_6 value other loaded => exact .notObject loaded other
  · intro unusable
    cases unusable with
    | @rejected fault unread shallow =>
        rcases fault with _ | ⟨_ | _ | container⟩
        case unreadable.tooDeep => exact absurd rfl (shallow container)
        all_goals exact ⟨_, by rw [Token.read, unread]⟩
    | @notObject value loaded other =>
        cases value with
        | object members => exact absurd rfl (other members)
        | _ => exact ⟨_, by rw [Token.read, loaded]⟩

theorem Attributed.decides {owner : String} {forgives : Bool} {purpose : Purpose}
    {ending : Except Stop Reply} {kind : Failure.Kind} {status : Option Nat}
    {compared : Option (String × String)}
    (row : Attributed owner forgives purpose ending kind status compared)
    (telling : kind.exitCode ≠ 3) (events : List Event) :
    Exchange.Decides owner ⟨purpose, events, ending⟩ kind.exitCode := by
  cases row with
  | tokenRequest => exact .tokenRequest
  | tokenStatus other => exact .tokenStatus other
  | tokenBody success unreadable =>
      exact .tokenBody success (Token.read_eq_token_iff.mp ⟨_, unreadable⟩)
  | tagMissing missing => exact .imageNotFound missing.symm
  | labelMissing success decoded absent => exact .labelMissing success decoded absent
  | labelMismatch success decoded bound other => exact .labelMismatch success decoded bound other
  | _ => exact absurd rfl telling

theorem Attributed.unrefused {owner : String} {forgives : Bool} {purpose : Purpose}
    {ending : Except Stop Reply} {kind : Failure.Kind} {status : Option Nat}
    {compared : Option (String × String)}
    (row : Attributed owner forgives purpose ending kind status compared) : kind.exitCode ≠ 2 := by
  cases row <;> decide

/-- A call that decides an exit code ends the validation, with a verdict that has this code. -/
theorem Exchange.Decides.verdict {exchange : Exchange} {code : Nat} (claim : Claim)
    (target : Claim.Target) (registry : Registry) (decides : exchange.Decides claim.owner code) :
    ∃ fetched failure,
      registry.after target.image exchange.purpose exchange.ending = .ended fetched ∧
      claim.judgement target false fetched = .error failure ∧ failure.exitCode = code ∧
      ∀ named, failure ≠ .rateLimited named := by
  cases decides with
  | imageNotFound missing =>
      obtain missing | missing := missing
      all_goals
        refine ⟨_, _, Registry.after_refused (by omega), rfl, ?_, ?_⟩
        all_goals rw [missing]
        · rfl
        · exact fun _ same => by cases same
  | tokenRequest => exact ⟨_, _, rfl, rfl, rfl, fun _ same => by cases same⟩
  | tokenStatus other =>
      exact ⟨_, _, Registry.after_refused other, rfl, rfl, fun _ same => by cases same⟩
  | tokenBody success unusable =>
      obtain ⟨fault, unreadable⟩ := Token.read_eq_token_iff.mpr unusable
      refine ⟨.error (.token fault), _, ?_, rfl, rfl, fun _ same => by cases same⟩
      rw [Registry.after_success success, Registry.receiving, Registry.granting, unreadable]
  | @labelMissing digest bearer events reply config success decoded absent =>
      refine ⟨.ok config.labels, .labelMissing target.image claim.owner, ?_, ?_, rfl,
        fun _ same => by cases same⟩
      · simp only [Registry.after_success success, Registry.receiving, Registry.reading,
          Registry.decoding, decoded]
      · simp only [Claim.judgement, Bool.false_eq_true, if_false, verifyLabels, absent]
  | @labelMismatch digest bearer events reply config actual success decoded bound other =>
      refine ⟨.ok config.labels, .labelMismatch claim.owner actual, ?_, ?_, rfl,
        fun _ same => by cases same⟩
      · simp only [Registry.after_success success, Registry.receiving, Registry.reading,
          Registry.decoding, decoded]
      · simp only [Claim.judgement, Bool.false_eq_true, if_false, verifyLabels, bound, other]

/-- A call that comes to a host that cannot be told has sent a request, unless cookies are kept when it is
made. -/
theorem Http.Course.sent_of_host {transport : Transport World} {client : Client} {isOpen : Bool}
    {call : Call} {left pauses : Nat} {world after : World} {events : List Event}
    {unknown : Url.Host.Fault}
    (course : Course transport client isOpen call left pauses world events
      (.error (.fault (.host unknown))) after)
    (value : Failure.hostKind unknown = .value) :
    (∃ request, .sent request ∈ events) ∨
      ∃ begun, transport.isCancelled world = (false, begun) ∧ transport.cookies begun ≠ none := by
  obtain sent | ⟨_, _, impossible⟩ | impossible | ⟨begun, fault, uncancelled, unwritten, failed⟩ :=
    course.sent_or_unsent
  · exact .inl sent
  · cases impossible
  · cases impossible
  · cases failed
    obtain ⟨_, impossible⟩ | ⟨_, impossible⟩ | ⟨_, same, kept | ⟨reason, nameless⟩⟩ :=
      Call.request_eq_error unwritten
    · cases impossible
    · cases impossible
    · exact .inr ⟨begun, uncancelled, kept⟩
    · cases same
      rw [nameless] at value
      cases value

/-- Where the last call comes to a host that cannot be told it has sent a request, or cookies are kept; and
then an earlier call has sent one, unless they are kept from the beginning. -/
theorem Conversation.sent_of_host {transport : Transport World} {registry : Registry}
    {image : Image.Reference} {isOpen : Bool} {stage : Stage} {world after : World}
    {earlier : List Exchange} {last : Exchange} {fetched : Except Failure Image.Labels}
    (conversation : Conversation transport registry image isOpen (registry.entering stage) world
      (earlier ++ [last]) fetched after)
    {unknown : Url.Host.Fault} (ended : last.ending = .error (.fault (.host unknown)))
    (value : Failure.hostKind unknown = .value) :
    (∃ request, .sent request ∈ last.events) ∨
      (∃ kept, transport.cookies kept ≠ none) ∧
        ((∃ request, .sent request ∈ earlier.flatMap Exchange.events) ∨
          ∃ begun, transport.isCancelled world = (false, begun) ∧ transport.cookies begun ≠ none) := by
  obtain ⟨purpose, calling⟩ := registry.entering_calling stage
  rw [calling] at conversation
  cases earlier with
  | nil =>
      cases conversation with
      | calls course _ =>
          cases ended
          obtain sent | ⟨begun, uncancelled, kept⟩ := course.sent_of_host value
          · exact .inl sent
          · exact .inr ⟨⟨begun, kept⟩, .inr ⟨begun, uncancelled, kept⟩⟩
  | cons first others =>
      have member : last ∈ first :: others ++ [last] :=
        List.mem_append_right _ (List.mem_singleton_self last)
      obtain ⟨_, _, course⟩ := conversation.coursed member
      rw [ended] at course
      obtain sent | ⟨begun, _, kept⟩ := course.sent_of_host value
      · exact .inl sent
      · refine .inr ⟨⟨begun, kept⟩, .inl ?_⟩
        cases conversation with
        | calls course rest =>
            -- Only a call with a reply is followed by another one.
            obtain ⟨request, sent⟩ | ⟨_, _, rfl⟩ | rfl | ⟨_, _, _, _, rfl⟩ := course.sent_or_unsent
            · exact ⟨request, by simp [sent]⟩
            all_goals exact absurd rest.finished_of_error (by simp)

namespace Command

section Table

variable (transport : Transport World) (surroundings : Surroundings) (invocation : Invocation)
  (world : World)

/-- What the exit code of an invocation tells about the calls that it makes. -/
structure Tells (exchanges : List Exchange) : Prop where
  passed : (perform transport surroundings invocation world).exitCode = 0 ↔
    ∃ descriptor settings, invocation.task.descriptor surroundings = .ok descriptor ∧
      Settings.ofEnvironment surroundings.environment = .ok settings ∧
      (validated transport surroundings invocation.task world descriptor settings).1 = .ok ()
  announced : (perform transport surroundings invocation world).exitCode = 0 →
    ∃ descriptor, invocation.task.descriptor surroundings = .ok descriptor ∧
      (perform transport surroundings invocation world).stdout =
        Output.okLine descriptor.identifier descriptor.version invocation.task.owner
  quiet : (perform transport surroundings invocation world).exitCode ≠ 0 →
    (perform transport surroundings invocation world).stdout = ""
  decided : ∀ code ∈ [1, 4, 10, 11],
    (perform transport surroundings invocation world).exitCode = code ↔
      ∃ exchange ∈ exchanges, exchange.Decides invocation.task.owner code
  refused : (perform transport surroundings invocation world).exitCode = 2 ↔
    ∃ failure, (perform transport surroundings invocation world).failure = some failure ∧
      failure.kind ∈ [.document, .value, .registryType, .baseUrl, .identifier]
  /-- The client is made for the invocation, and so it keeps no cookies at first. -/
  sent : (perform transport surroundings invocation world).exitCode = 2 →
    transport.cookies world = none →
    ((∃ request, .sent request ∈ (perform transport surroundings invocation world).trace) ↔
      ∃ earlier last unknown, exchanges = earlier ++ [last] ∧
        last.ending = .error (.fault (.host unknown)))
  otherwise : (perform transport surroundings invocation world).exitCode ∈ [0, 1, 2, 3, 4, 10, 11]

end Table

variable {transport : Transport World} {surroundings : Surroundings} {invocation : Invocation}
  {world : World} {exchanges : List Exchange}

/-! ### From the calls to the code -/

section Tables

theorem perform_refused_iff :
    (perform transport surroundings invocation world).exitCode = 2 ↔
      ∃ failure, (perform transport surroundings invocation world).failure = some failure ∧
        failure.kind ∈ [.document, .value, .registryType, .baseUrl, .identifier] := by
  cases came : (checked transport surroundings invocation.task world).1 with
  | ok descriptor =>
      obtain ⟨code, unfailed, _⟩ := perform_ok came
      simp [code, unfailed]
  | error failure =>
      obtain ⟨code, failed, _⟩ := perform_error came
      simp [code, failed, Failure.exitCode, Failure.Kind.exitCode_eq_two_iff]

theorem perform_exitCode_mem :
    (perform transport surroundings invocation world).exitCode ∈ [0, 1, 2, 3, 4, 10, 11] := by
  cases came : (checked transport surroundings invocation.task world).1 with
  | ok descriptor => simp [(perform_ok came).1]
  | error failure =>
      rw [(perform_error came).1]
      exact List.mem_cons_of_mem 0 failure.kind.exitCode_mem

theorem perform_eq_zero_iff :
    (perform transport surroundings invocation world).exitCode = 0 ↔
      ∃ descriptor, (checked transport surroundings invocation.task world).1 = .ok descriptor := by
  cases came : (checked transport surroundings invocation.task world).1 with
  | ok descriptor => simp [(perform_ok came).1]
  | error failure =>
      have coded := failure.kind.exitCode_mem
      simp only [(perform_error came).1, reduceCtorEq, exists_false, iff_false]
      intro zero
      rw [← Failure.exitCode, zero] at coded
      simp at coded

theorem Tells.of_calls
    (decided : ∀ code ∈ [1, 4, 10, 11],
      (perform transport surroundings invocation world).exitCode = code ↔
        ∃ exchange ∈ exchanges, exchange.Decides invocation.task.owner code)
    (sent : (perform transport surroundings invocation world).exitCode = 2 →
      transport.cookies world = none →
      ((∃ request, .sent request ∈ (perform transport surroundings invocation world).trace) ↔
        ∃ earlier last unknown, exchanges = earlier ++ [last] ∧
          last.ending = .error (.fault (.host unknown)))) :
    Tells transport surroundings invocation world exchanges where
  passed := by simp only [perform_eq_zero_iff, checked_eq_ok_iff, exists_and_left]
  announced := by
    intro zero
    obtain ⟨descriptor, passed⟩ := perform_eq_zero_iff.mp zero
    exact ⟨descriptor, (checked_eq_ok_iff.mp passed).1, (perform_ok passed).2.2⟩
  quiet := by
    intro nonzero
    cases came : (checked transport surroundings invocation.task world).1 with
    | ok descriptor => exact absurd (perform_ok came).1 nonzero
    | error failure => exact (perform_error came).2.2
  decided := decided
  refused := perform_refused_iff
  sent := sent
  otherwise := perform_exitCode_mem

theorem Tells.of_premature {failure : Failure} (premature : failure.isPremature = true)
    (failed : (checked transport surroundings invocation.task world).1 = .error failure)
    (silent : (checked transport surroundings invocation.task world).2.trace = []) :
    Tells transport surroundings invocation world [] := by
  refine .of_calls ?_ ?_
  · -- The code of a premature failure is 2 or 3, and no call has been made that could decide another.
    intro code telling
    have coded := Failure.exitCode_premature premature
    rw [(perform_error failed).1]
    simp only [List.not_mem_nil, false_and, exists_false, iff_false]
    rintro rfl
    simp only [List.mem_cons, List.not_mem_nil, or_false] at coded telling
    omega
  · simp [perform_trace, silent]

end Tables

namespace Consults

variable {descriptor : Package.Descriptor} {settings : Settings} {target : Claim.Target}
  {registry : Registry} {failure : Failure}

theorem decided
    (consults : Consults transport surroundings invocation.task world descriptor settings target
      registry exchanges) {code : Nat} (telling : code ∈ [1, 4, 10, 11]) :
    (perform transport surroundings invocation world).exitCode = code ↔
      ∃ exchange ∈ exchanges, exchange.Decides invocation.task.owner code := by
  obtain ⟨fetched, after, conversation, came⟩ := consults.concluded
  constructor
  · rintro rfl
    cases concluded : target.conclusion
        ((invocation.task.claim descriptor settings).judgement target false fetched) with
    | ok passed =>
        rw [concluded] at came
        simp [(perform_ok came).1] at telling
    | error failure =>
        rw [concluded] at came
        rw [(perform_error came).1] at telling ⊢
        simp only [List.mem_cons, List.not_mem_nil, or_false] at telling
        -- A failure with such a code is attributed to the last call, and its row decides the code.
        obtain ⟨classified, uncancelled⟩ : failure.isClassified = true ∧ failure.kind ≠ .cancelled :=
          Failure.classified_of_exitCode (by simp; omega)
        obtain ⟨earlier, last, rfl, row⟩ :=
          Claim.attributed_conversation conversation concluded classified uncancelled
        have other : failure.kind.exitCode ≠ 3 := by
          rw [← Failure.exitCode]
          omega
        exact ⟨last, List.mem_append_right _ (List.mem_singleton_self _),
          row.decides other last.events⟩
  · intro deciding
    obtain ⟨exchange, member, decides⟩ := deciding
    obtain ⟨final, failure, ends, judged, coded, other⟩ :=
      decides.verdict (invocation.task.claim descriptor settings) target registry
    obtain rfl := conversation.ended member ends
    rw [judged, target.conclusion_other other] at came
    rw [(perform_error came).1, coded]

/-- An input is refused in the midst of the calls only when the last one got to an unknown host, which is
not before a request has been sent. -/
theorem unhosted
    (consults : Consults transport surroundings invocation.task world descriptor settings target
      registry exchanges)
    (refused : (perform transport surroundings invocation world).exitCode = 2)
    (fresh : transport.cookies world = none) :
    (∃ request, .sent request ∈ (perform transport surroundings invocation world).trace) ∧
      ∃ earlier last unknown, exchanges = earlier ++ [last] ∧
        last.ending = .error (.fault (.host unknown)) := by
  obtain ⟨fetched, after, conversation, came⟩ := consults.concluded
  cases concluded : target.conclusion
      ((invocation.task.claim descriptor settings).judgement target false fetched) with
  | ok passed =>
      rw [concluded] at came
      simp [(perform_ok came).1] at refused
  | error failure =>
      rw [concluded] at came
      rw [(perform_error came).1] at refused
      -- No row of a call refuses an input, and so the failure has escaped from the last call.
      have unclassified : failure.isClassified = false := by
        by_contra classified
        obtain ⟨earlier, last, rfl, row⟩ := Claim.attributed_conversation conversation concluded
          (by simpa using classified) (by
            intro cancelled
            simp [Failure.exitCode, cancelled, Failure.Kind.exitCode] at refused)
        exact row.unrefused refused
      have escaped := Claim.conclusion_unclassified_iff.mp ⟨concluded, unclassified⟩
      obtain ⟨earlier, last, rfl, escapes⟩ := conversation.unclassified_iff.mp escaped
      cases escapes with
      | @broken purpose events fault foreign breaks =>
          cases fault with
          | host unknown =>
              have value := Failure.hostKind_of_exitCode refused
              refine ⟨?_, earlier, _, unknown, rfl, rfl⟩
              rw [perform_trace, consults.trace]
              obtain ⟨request, sent⟩ | ⟨_, ⟨request, sent⟩ | ⟨begun, begins, kept⟩⟩ :=
                conversation.sent_of_host rfl value
              · exact ⟨request, by simp [sent]⟩
              · exact ⟨request, by simp [List.mem_flatMap.mp sent]⟩
              · -- Nobody cancels, and so the call is made where nothing is kept yet.
                cases begins
                exact absurd fresh kept
          | _ => simp [Failure.exitCode, Failure.kind, Failure.Kind.exitCode] at refused
      | deepToken => simp [Failure.exitCode, Failure.kind, Failure.Kind.exitCode] at refused

theorem tells
    (consults : Consults transport surroundings invocation.task world descriptor settings target
      registry exchanges) : Tells transport surroundings invocation world exchanges := by
  refine .of_calls (fun code telling => consults.decided telling) ?_
  intro refused fresh
  obtain ⟨sent, last⟩ := consults.unhosted refused fresh
  exact ⟨fun _ => last, fun _ => sent⟩

end Consults

/-- The exit code of an invocation tells of the calls that are made for it, whatever the surroundings
and the answers. -/
theorem perform_exitCode (transport : Transport World) (surroundings : Surroundings)
    (invocation : Invocation) (world : World) :
    ∃ exchanges, Calls transport surroundings invocation.task world exchanges ∧
      Tells transport surroundings invocation world exchanges := by
  obtain ⟨failure, premature, failed, silent⟩ | ⟨_, _, _, _, exchanges, consults⟩ :=
    premature_or_consults transport surroundings invocation.task world
  · exact ⟨[], .none silent, .of_premature premature failed silent⟩
  · exact ⟨exchanges, .made consults, consults.tells⟩

/-- The check of an image from the command line, where no variable is set. -/
def imageInvocation : Invocation :=
  ⟨false, .image "me/server" "me/server" "1" "https://ghcr.io"⟩

def plainSurroundings : Surroundings where
  environment _ := none
  contentAt path := .error (.missing path)

/-- The check is answered with a redirect to a host that is no address. -/
def strayOutcome : Outcome :=
  perform Script.transport plainSurroundings imageInvocation
    { entries := [{ answer := .ok ⟨302, some "//[fe80::1%]]/b", []⟩ }] }

/-- The redirect counts as an input that is refused, and yet a request has been sent. -/
theorem refused_afterRequest :
    strayOutcome.exitCode = 2 ∧ ∃ request, .sent request ∈ strayOutcome.trace := by
  have code : strayOutcome.exitCode = 2 := by decide +kernel
  have sent : strayOutcome.trace.any Event.isRequest = true := by decide +kernel
  obtain ⟨event, member, isRequest⟩ := List.any_eq_true.mp sent
  cases event with
  | sent request => exact ⟨code, request, member⟩
  | _ => cases isRequest

end Command

end ImageOwnership
