import ImageOwnership.Proofs.Session

/-!
How a call ends a validation. The rules tell every way in which the ending of one call can be the
failure of the whole validation; what a verdict makes of a failure is told as well.
-/

namespace ImageOwnership

open Http

def Stage.Malformed : Stage → List UInt8 → List Document.Fault → Prop
  | .config _, body, faults => Image.Config.read body = .error faults
  | _, body, faults => Image.Manifest.read body = .error faults

/-- The manifest of a stage is the one that counts, because it is not taken for a list. -/
inductive Stage.Settles : Stage → Image.Manifest → Prop where
  | tag {manifest : Image.Manifest} (single : manifest.platforms = []) : Settles .tag manifest
  | platform {digest : String} {manifest : Image.Manifest} : Settles (.platform digest) manifest

/-- A fault of a call that is not the failure of a request. -/
def Http.Fault.Foreign (fault : Fault) : Prop :=
  ∀ error, fault ≠ .request error

namespace Registry

variable (image : Image.Reference)

inductive FailsAfter : Purpose → Except Stop Reply → Failure → Prop where
  | request {purpose : Purpose} {error : RequestError} :
      FailsAfter purpose (.error (.fault (.request error))) (purpose.failed image error)
  | fault {purpose : Purpose} {fault : Fault} (foreign : fault.Foreign) :
      FailsAfter purpose (.error (.fault fault)) (.stopped (.fault fault))
  | cancelled {purpose : Purpose} {moment : Moment} {url : String} :
      FailsAfter purpose (.error (.cancelled moment url)) (.stopped (.cancelled moment url))
  | refused {purpose : Purpose} {reply : Reply} (other : reply.status ≠ 200) :
      FailsAfter purpose (.ok reply) (purpose.refused image reply.status)
  | ungranted {url : String} {stage : Stage} {reply : Reply} {failure : Failure}
      (success : reply.status = 200) (unreadable : Token.read reply.body = .error failure) :
      FailsAfter (.token url stage) (.ok reply) failure
  | malformed {stage : Stage} {bearer : Option (List CodePoint)} {reply : Reply}
      {faults : List Document.Fault} (success : reply.status = 200)
      (malformed : stage.Malformed reply.body faults) :
      FailsAfter (.document stage bearer) (.ok reply) (stage.failure image (.malformed faults))
  | unnamed {stage : Stage} {bearer : Option (List CodePoint)} {reply : Reply}
      {manifest : Image.Manifest} (success : reply.status = 200)
      (decoded : Image.Manifest.read reply.body = .ok manifest) (settles : stage.Settles manifest)
      (empty : manifest.config = "") :
      FailsAfter (.document stage bearer) (.ok reply) (.noConfigDigest image)

variable {image} {registry : Registry} {failure : Failure}

theorem settling_failed {digest : String}
    (failed : registry.settling image digest = .ended (.error failure)) :
    digest = "" ∧ failure = .noConfigDigest image := by
  unfold settling at failed
  split at failed
  · rename_i empty
    cases failed
    exact ⟨String.isEmpty_iff.mp empty, rfl⟩
  · obtain ⟨purpose, calling⟩ := registry.entering_calling (.config digest)
    rw [calling] at failed
    cases failed

theorem decoding_failed {α : Type} {stage : Stage} {decode : List UInt8 → Document.Decoded α}
    {onward : α → Position} {body : List UInt8}
    (failed : decoding image stage decode onward body = .ended (.error failure)) :
    (∃ faults, decode body = .error faults ∧ failure = stage.failure image (.malformed faults)) ∨
      ∃ document, decode body = .ok document ∧ onward document = .ended (.error failure) := by
  unfold decoding at failed
  cases decoded : decode body with
  | error faults =>
      rw [decoded] at failed
      cases failed
      exact .inl ⟨faults, rfl, rfl⟩
  | ok document =>
      rw [decoded] at failed
      exact .inr ⟨document, rfl, failed⟩

theorem reading_failed {stage : Stage} {body : List UInt8}
    (failed : registry.reading image stage body = .ended (.error failure)) :
    (∃ faults, stage.Malformed body faults ∧ failure = stage.failure image (.malformed faults)) ∨
      ∃ manifest, Image.Manifest.read body = .ok manifest ∧ stage.Settles manifest ∧
        manifest.config = "" ∧ failure = .noConfigDigest image := by
  cases stage with
  | tag =>
      obtain malformed | ⟨manifest, decoded, failed⟩ := decoding_failed failed
      · exact .inl malformed
      · cases entries : manifest.platforms with
        | nil =>
            simp only [tagged, entries] at failed
            obtain ⟨empty, same⟩ := settling_failed failed
            exact .inr ⟨manifest, decoded, .tag entries, empty, same⟩
        | cons digest others =>
            obtain ⟨purpose, calling⟩ := registry.entering_calling (.platform digest)
            simp [tagged, entries, calling] at failed
  | platform digest =>
      obtain malformed | ⟨manifest, decoded, failed⟩ := decoding_failed failed
      · exact .inl malformed
      · obtain ⟨empty, same⟩ := settling_failed failed
        exact .inr ⟨manifest, decoded, .platform, empty, same⟩
  | config digest =>
      obtain malformed | ⟨config, _, failed⟩ := decoding_failed failed
      · exact .inl malformed
      · cases failed

/-- A validation fails after a call only in the ways that the rules tell. -/
theorem after_failed {purpose : Purpose} {ending : Except Stop Reply}
    (failed : registry.after image purpose ending = .ended (.error failure)) :
    FailsAfter image purpose ending failure := by
  -- Only a reply of success is read; all other endings are failures by themselves.
  rcases ending with (⟨error | _⟩ | _) | reply
  case error.fault.request =>
    cases failed
    exact .request
  case error.cancelled =>
    cases failed
    exact .cancelled
  case ok =>
    by_cases success : reply.status = 200
    · rw [after_success success] at failed
      cases purpose with
      | token url stage =>
          simp only [receiving, granting] at failed
          cases unreadable : Token.read reply.body with
          | error fault =>
              rw [unreadable] at failed
              cases failed
              exact .ungranted success unreadable
          | ok token =>
              rw [unreadable] at failed
              cases failed
      | document stage bearer =>
          obtain ⟨faults, malformed, rfl⟩ | ⟨manifest, decoded, settles, empty, rfl⟩ :=
            reading_failed failed
          · exact .malformed success malformed
          · exact .unnamed success decoded settles empty
    · rw [after_refused success] at failed
      cases failed
      exact .refused success
  all_goals
    cases failed
    exact .fault (by simp [Fault.Foreign])

theorem settling_unfetched {labels : Image.Labels} {digest : String} :
    registry.settling image digest ≠ .ended (.ok labels) := by
  obtain ⟨purpose, calling⟩ := registry.entering_calling (.config digest)
  unfold settling
  split
  · simp
  · simp [calling]

/-- Labels are fetched by the last call only, and only from the config of an image. -/
theorem after_fetched {purpose : Purpose} {ending : Except Stop Reply} {labels : Image.Labels}
    (fetched : registry.after image purpose ending = .ended (.ok labels)) :
    ∃ digest bearer reply config, purpose = .document (.config digest) bearer ∧
      ending = .ok reply ∧ reply.status = 200 ∧
      Image.Config.read reply.body = .ok config ∧ config.labels = labels := by
  rcases ending with (⟨⟨_⟩ | _⟩ | _) | reply
  case ok =>
    by_cases success : reply.status = 200
    · rw [after_success success] at fetched
      cases purpose with
      | token url stage =>
          simp only [receiving, granting] at fetched
          split at fetched <;> cases fetched
      | document stage bearer =>
          cases stage with
          | tag =>
              simp only [receiving, reading, decoding, tagged] at fetched
              split at fetched
              · cases fetched
              · split at fetched
                · exact absurd fetched settling_unfetched
                · rename_i digest _ _
                  obtain ⟨purpose, calling⟩ := registry.entering_calling (.platform digest)
                  rw [calling] at fetched
                  cases fetched
          | platform digest =>
              simp only [receiving, reading, decoding] at fetched
              split at fetched
              · cases fetched
              · exact absurd fetched settling_unfetched
          | config digest =>
              simp only [receiving, reading, decoding] at fetched
              split at fetched
              · cases fetched
              · rename_i config decoded
                cases fetched
                exact ⟨digest, bearer, reply, config, rfl, rfl, success, decoded, rfl⟩
    · rw [after_refused success] at fetched
      cases fetched
  all_goals cases fetched

end Registry

/-! ### The verdict -/

theorem verifyLabels_failed {labels : Image.Labels} {owner : String} {image : Image.Reference}
    {failure : Failure} (failed : verifyLabels labels owner image = .error failure) :
    (labels.lookup ownerLabel = none ∧ failure = .labelMissing image owner) ∨
      ∃ actual, labels.lookup ownerLabel = some actual ∧ actual ≠ owner ∧
        failure = .labelMismatch owner actual := by
  unfold verifyLabels at failed
  cases bound : labels.lookup ownerLabel with
  | none =>
      rw [bound] at failed
      cases failed
      exact .inl ⟨rfl, rfl⟩
  | some actual =>
      simp only [bound] at failed
      split at failed
      · cases failed
      · rename_i other
        cases failed
        exact .inr ⟨actual, rfl, other, rfl⟩

namespace Claim

variable {claim : Claim} {target : Target} {failure : Failure}

theorem judgement_failed {cancelled : Bool} {fetched : Except Failure Image.Labels}
    (failed : claim.judgement target cancelled fetched = .error failure) :
    fetched = .error failure ∨ ∃ labels, fetched = .ok labels ∧
      (failure = .cancelled target.image ∨
        verifyLabels labels claim.owner target.image = .error failure) := by
  unfold judgement at failed
  cases fetched with
  | error cause =>
      cases failed
      exact .inl rfl
  | ok labels =>
      cases cancelled with
      | true =>
          cases failed
          exact .inr ⟨labels, rfl, .inl rfl⟩
      | false => exact .inr ⟨labels, rfl, .inr failed⟩

/-- A failure that is concluded is the one of the verdict; a limited rate is only concluded where the
settings do not forgive it. -/
theorem Target.conclusion_failed {verdict : Except Failure Unit}
    (failed : target.conclusion verdict = .error failure) :
    verdict = .error failure ∧
      ∀ image, failure = .rateLimited image → target.settings.skipsRateLimit = false := by
  unfold conclusion at failed
  split at failed
  · split at failed
    · cases failed
    · rename_i forgiving
      cases failed
      exact ⟨rfl, fun _ _ => by simpa using forgiving⟩
  · rename_i other
    cases failed
    exact ⟨rfl, fun image limited => absurd (congrArg Except.error limited) (other image)⟩

end Claim

end ImageOwnership
