import ImageOwnership.Http.Script
import ImageOwnership.Proofs.Endings
import ImageOwnership.Proofs.Http.Trace

/-!
Which failure belongs to which call. The table has a row for each stage and each way in which its call
can go wrong, with the kind of the failure, the status that it tells of and the owners that it compares.
Every classified failure of a validation stands in the row of the last call that was made.
-/

namespace ImageOwnership

open Http

variable {World : Type}

/-- The owner that was expected and the one that was found, where a failure compares them. -/
def Failure.compared? : Failure → Option (String × String)
  | .labelMismatch owner actual => some (owner, actual)
  | _ => none

/-- The rows of the table, for an owner and for settings that forgive a limited rate or do not. -/
inductive Attributed (owner : String) (forgives : Bool) :
    Purpose → Except Stop Reply → Failure.Kind → Option Nat → Option (String × String) → Prop where
  | tokenRequest {url stage error} :
      Attributed owner forgives (.token url stage) (.error (.fault (.request error))) .token none none
  | tokenStatus {url stage reply} (other : reply.status ≠ 200) :
      Attributed owner forgives (.token url stage) (.ok reply) .token (some reply.status) none
  | tokenBody {url stage reply fault} (success : reply.status = 200)
      (unreadable : Token.read reply.body = .error (.token fault)) :
      Attributed owner forgives (.token url stage) (.ok reply) .token none none
  | tagMissing {bearer reply} (missing : reply.status = 404 ∨ reply.status = 401) :
      Attributed owner forgives (.document .tag bearer) (.ok reply) .imageNotFound
        (some reply.status) none
  | tagLimited {bearer reply} (limited : reply.status = 429) (unforgiven : forgives = false) :
      Attributed owner forgives (.document .tag bearer) (.ok reply) .rateLimited (some 429) none
  | tagStatus {bearer reply} (other : reply.status ∉ [200, 404, 401, 429]) :
      Attributed owner forgives (.document .tag bearer) (.ok reply) .manifestFetch
        (some reply.status) none
  | tagRequest {bearer error} :
      Attributed owner forgives (.document .tag bearer) (.error (.fault (.request error)))
        .manifestFetch none none
  | tagBody {bearer reply faults} (success : reply.status = 200)
      (malformed : Image.Manifest.read reply.body = .error faults) :
      Attributed owner forgives (.document .tag bearer) (.ok reply) .manifestDocument none none
  | platformStatus {digest bearer reply} (other : reply.status ≠ 200) :
      Attributed owner forgives (.document (.platform digest) bearer) (.ok reply) .manifestFetch
        (some reply.status) none
  | platformRequest {digest bearer error} :
      Attributed owner forgives (.document (.platform digest) bearer)
        (.error (.fault (.request error))) .manifestFetch none none
  | platformBody {digest bearer reply faults} (success : reply.status = 200)
      (malformed : Image.Manifest.read reply.body = .error faults) :
      Attributed owner forgives (.document (.platform digest) bearer) (.ok reply)
        .manifestDocument none none
  | noConfigDigest {stage bearer reply manifest} (success : reply.status = 200)
      (decoded : Image.Manifest.read reply.body = .ok manifest) (settles : stage.Settles manifest)
      (empty : manifest.config = "") :
      Attributed owner forgives (.document stage bearer) (.ok reply) .configDigest none none
  | configStatus {digest bearer reply} (other : reply.status ≠ 200) :
      Attributed owner forgives (.document (.config digest) bearer) (.ok reply) .configFetch
        (some reply.status) none
  | configRequest {digest bearer error} :
      Attributed owner forgives (.document (.config digest) bearer)
        (.error (.fault (.request error))) .configFetch none none
  | configBody {digest bearer reply faults} (success : reply.status = 200)
      (malformed : Image.Config.read reply.body = .error faults) :
      Attributed owner forgives (.document (.config digest) bearer) (.ok reply)
        .configDocument none none
  | labelMissing {digest bearer reply config} (success : reply.status = 200)
      (decoded : Image.Config.read reply.body = .ok config)
      (absent : config.labels.lookup ownerLabel = none) :
      Attributed owner forgives (.document (.config digest) bearer) (.ok reply)
        .labelMissing none none
  | labelMismatch {digest bearer reply config actual} (success : reply.status = 200)
      (decoded : Image.Config.read reply.body = .ok config)
      (bound : config.labels.lookup ownerLabel = some actual) (other : actual ≠ owner) :
      Attributed owner forgives (.document (.config digest) bearer) (.ok reply)
        .labelMismatch none (some (owner, actual))

section Rows

variable {image : Image.Reference} {owner : String} {forgives : Bool} {failure : Failure}

theorem Token.read_failed {body : List UInt8} (failed : Token.read body = .error failure)
    (classified : failure.isClassified = true) :
    ∃ fault, failure = .token fault ∧ fault.status? = none := by
  unfold Token.read at failed
  split at failed
  all_goals cases failed
  all_goals first | exact ⟨_, rfl, rfl⟩ | cases classified

theorem Attributed.request {purpose : Purpose} {error : RequestError} :
    Attributed owner forgives purpose (.error (.fault (.request error)))
      (purpose.failed image error).kind (purpose.failed image error).status?
      (purpose.failed image error).compared? := by
  cases purpose with
  | token url stage => exact .tokenRequest
  | document stage bearer =>
      cases stage with
      | tag => exact .tagRequest
      | platform digest => exact .platformRequest
      | config digest => exact .configRequest

/-- For the manifest of the tag some statuses have a meaning of their own. -/
theorem Attributed.tagRefused {bearer : Option (List CodePoint)} {reply : Reply}
    (other : reply.status ≠ 200)
    (unforgiven : Registry.tagFailure image (.status reply.status) = .rateLimited image →
      forgives = false) :
    Attributed owner forgives (.document .tag bearer) (.ok reply)
      (Registry.tagFailure image (.status reply.status)).kind
      (Registry.tagFailure image (.status reply.status)).status?
      (Registry.tagFailure image (.status reply.status)).compared? := by
  by_cases missing : reply.status = 404 ∨ reply.status = 401
  · have row : Attributed owner forgives (.document .tag bearer) (.ok reply) .imageNotFound
        (some reply.status) none := .tagMissing missing
    obtain same | same := missing
    · rw [same] at row ⊢
      exact row
    · rw [same] at row ⊢
      exact row
  · by_cases limited : reply.status = 429
    · rw [limited] at unforgiven ⊢
      exact .tagLimited limited (unforgiven rfl)
    · have fetch : Registry.tagFailure image (.status reply.status) =
          .manifest (.status reply.status) := by
        unfold Registry.tagFailure
        split <;> simp_all
      rw [fetch]
      exact .tagStatus (by simp_all)

theorem Attributed.refused {purpose : Purpose} {reply : Reply} (other : reply.status ≠ 200)
    (unforgiven : purpose.refused image reply.status = .rateLimited image → forgives = false) :
    Attributed owner forgives purpose (.ok reply) (purpose.refused image reply.status).kind
      (purpose.refused image reply.status).status?
      (purpose.refused image reply.status).compared? := by
  cases purpose with
  | token url stage => exact .tokenStatus other
  | document stage bearer =>
      cases stage with
      | tag => exact .tagRefused other unforgiven
      | platform digest => exact .platformStatus other
      | config digest => exact .configStatus other

theorem Attributed.malformed {stage : Stage} {bearer : Option (List CodePoint)} {reply : Reply}
    {faults : List Document.Fault} (success : reply.status = 200)
    (malformed : stage.Malformed reply.body faults) :
    Attributed owner forgives (.document stage bearer) (.ok reply)
      (stage.failure image (.malformed faults)).kind
      (stage.failure image (.malformed faults)).status?
      (stage.failure image (.malformed faults)).compared? := by
  cases stage with
  | tag => exact .tagBody success malformed
  | platform digest => exact .platformBody success malformed
  | config digest => exact .configBody success malformed

/-- The failure that a call ends in stands in the row of that call. -/
theorem Registry.FailsAfter.attributed {purpose : Purpose} {ending : Except Stop Reply}
    (fails : FailsAfter image purpose ending failure) (classified : failure.isClassified = true)
    (uncancelled : failure.kind ≠ .cancelled)
    (unforgiven : failure = .rateLimited image → forgives = false) :
    Attributed owner forgives purpose ending failure.kind failure.status? failure.compared? := by
  cases fails with
  | request => exact .request
  | fault _ => cases classified
  | cancelled => exact absurd rfl uncancelled
  | refused other => exact .refused other unforgiven
  | ungranted success unreadable =>
      obtain ⟨fault, rfl, statusless⟩ := Token.read_failed unreadable classified
      rw [Failure.status?, statusless]
      exact .tokenBody success unreadable
  | malformed success malformed => exact .malformed success malformed
  | unnamed success decoded settles empty => exact .noConfigDigest success decoded settles empty

/-- What is wrong with the labels stands in the rows of the config. -/
theorem Attributed.verified {digest : String} {bearer : Option (List CodePoint)} {reply : Reply}
    {config : Image.Config} (success : reply.status = 200)
    (decoded : Image.Config.read reply.body = .ok config)
    (failed : verifyLabels config.labels owner image = .error failure) :
    Attributed owner forgives (.document (.config digest) bearer) (.ok reply) failure.kind
      failure.status? failure.compared? := by
  obtain ⟨absent, rfl⟩ | ⟨actual, bound, other, rfl⟩ := verifyLabels_failed failed
  · exact .labelMissing success decoded absent
  · exact .labelMismatch success decoded bound other

/-- A call that is cancelled before it begins gives no failure but a cancellation. -/
theorem Attributed.uncancelled {purpose : Purpose} {ending : Except Stop Reply} {kind : Failure.Kind}
    {status : Option Nat} {compared : Option (String × String)}
    (row : Attributed owner forgives purpose ending kind status compared) (moment : Moment)
    (url : String) : ending ≠ .error (.cancelled moment url) := by
  cases row <;> simp

end Rows

namespace Claim

variable {claim : Claim} {target : Target} {environment : Settings.Environment}

/-- The conversation of a failed validation ends in the row of its failure. -/
theorem attributed_conversation {transport : Transport World} {registry : Registry} {isOpen : Bool}
    {world after : World} {exchanges : List Exchange} {fetched : Except Failure Image.Labels}
    {cancelled : Bool} {failure : Failure}
    (conversation : Conversation transport registry target.image isOpen (registry.entering .tag) world
      exchanges fetched after)
    (failed : target.conclusion (claim.judgement target cancelled fetched) = .error failure)
    (classified : failure.isClassified = true) (uncancelled : failure.kind ≠ .cancelled) :
    ∃ earlier last, exchanges = earlier ++ [last] ∧
      Attributed claim.owner target.settings.skipsRateLimit last.purpose last.ending failure.kind
        failure.status? failure.compared? := by
  obtain ⟨judged, unforgiven⟩ := target.conclusion_failed failed
  obtain ⟨earlier, last, rfl, ended⟩ := conversation.concluded_entering
  refine ⟨earlier, last, rfl, ?_⟩
  obtain rfl | ⟨labels, rfl, rfl | unverified⟩ := judgement_failed judged
  · exact (Registry.after_failed ended).attributed classified uncancelled (unforgiven target.image)
  · exact absurd rfl uncancelled
  · obtain ⟨purpose, events, ending⟩ := last
    obtain ⟨digest, bearer, reply, config, rfl, rfl, success, decoded, rfl⟩ :=
      Registry.after_fetched ended
    exact .verified success decoded unverified

/-- A validation with its inputs in order that fails in a classified way, and is not cancelled, fails by
the last call of its trace and in the row of that call. -/
theorem validateImage_attributed {transport : Transport World} {run : Run World Log.Entry}
    {failure : Failure} (settled : claim.target environment = .ok target)
    (failed : (Action.perform (claim.validateImage transport environment) run).1 = .error failure)
    (classified : failure.isClassified = true) (uncancelled : failure.kind ≠ .cancelled) :
    ∃ registry earlier last fetched world,
      claim.made target = .ok registry ∧
      Conversation transport registry target.image run.isOpen (registry.entering .tag) run.world
        (earlier ++ [last]) fetched world ∧
      (Action.perform (claim.validateImage transport environment) run).2.trace =
        run.trace ++ registry.opening ++ earlier.flatMap Exchange.events ++ last.events ++
          registry.closing run.isOpen ∧
      logicalCalls last.events = [(last.purpose.call registry target.image).url] ∧
      Attributed claim.owner target.settings.skipsRateLimit last.purpose last.ending failure.kind
        failure.status? failure.compared? := by
  cases made : claim.made target with
  | error fault =>
      rw [perform_validateImage_unmade transport settled made] at failed
      obtain ⟨_, cause, rfl, _⟩ := made_error made
      cases failed
      cases classified
  | ok registry =>
      obtain ⟨exchanges, fetched, world, notes, conversation, performed⟩ :=
        perform_validateImage transport settled made run
      rw [performed] at failed
      obtain ⟨earlier, last, rfl, row⟩ :=
        attributed_conversation conversation failed classified uncancelled
      have member : last ∈ earlier ++ [last] := List.mem_append_right _ (List.mem_singleton_self _)
      obtain ⟨_, _, course⟩ := conversation.coursed member
      refine ⟨registry, earlier, last, fetched, world, rfl, conversation, ?_, ?_, row⟩
      · rw [performed]
        simp [Registry.left, List.append_assoc]
      · have calm : Calm [] := trivial
        obtain ⟨_, unbegun⟩ | counted := course.logicalCalls (.inl calm)
        · exact absurd unbegun (row.uncancelled _ _)
        · simpa [logicalCalls] using counted

/-- An image that is not found fails in the row of its tag. -/
theorem notFound_attributed :
    ∃ registry earlier last fetched world,
      (ofTag "1").made ⟨⟨.whole 10, 0, Settings.defaultUserAgent, Settings.defaultTokenUrl, true⟩,
        "https://ghcr.io", ⟨⟨"me", "server"⟩, "1"⟩⟩ = .ok registry ∧
      Conversation Http.Script.transport registry ⟨⟨"me", "server"⟩, "1"⟩ true
        (registry.entering .tag) { entries := [{ answer := .ok ⟨404, none, []⟩ }] }
        (earlier ++ [last]) fetched world ∧
      (Action.perform ((ofTag "1").validateImage Http.Script.transport fun _ => none)
          { world := { entries := [{ answer := .ok ⟨404, none, []⟩ }] } }).2.trace =
        [] ++ registry.opening ++ earlier.flatMap Exchange.events ++ last.events ++
          registry.closing true ∧
      logicalCalls last.events = [(last.purpose.call registry ⟨⟨"me", "server"⟩, "1"⟩).url] ∧
      Attributed "me/server" true last.purpose last.ending .imageNotFound (some 404) none := by
  have settled : (ofTag "1").target (fun _ => none) =
      .ok ⟨⟨.whole 10, 0, Settings.defaultUserAgent, Settings.defaultTokenUrl, true⟩,
        "https://ghcr.io", ⟨⟨"me", "server"⟩, "1"⟩⟩ := by
    decide +kernel
  have failed : (Action.perform ((ofTag "1").validateImage Http.Script.transport fun _ => none)
      { world := { entries := [{ answer := .ok ⟨404, none, []⟩ }] } }).1 =
        .error (.imageNotFound ⟨⟨"me", "server"⟩, "1"⟩ 404) := by
    decide +kernel
  exact validateImage_attributed settled failed rfl (by decide)

end Claim

end ImageOwnership
