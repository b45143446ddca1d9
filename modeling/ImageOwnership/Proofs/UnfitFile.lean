import ImageOwnership.Proofs.Invocation
import ImageOwnership.Proofs.Package.Descriptor
import ImageOwnership.Proofs.Text.Utf8

/-!
Files that hold no package descriptor. Nothing is asked for because of them, and nothing but an error is
written; a file of text is invalid input, and one that is no text is not told from a file that cannot be
read.
-/

namespace ImageOwnership

open Http

variable {World : Type} {content : List UInt8}

/-- Bytes that are the encoding of a text. -/
def Utf8.Encoded (bytes : List UInt8) : Prop :=
  ∃ text, bytes = encode text

theorem Utf8.encoded_iff : Encoded content ↔ ∃ points, decode content = .ok points := by
  simp only [Encoded, decode_eq_ok_iff]
  constructor
  · intro encoded
    obtain ⟨text, same⟩ := encoded
    exact ⟨_, text, same, rfl⟩
  · intro decoded
    obtain ⟨_, text, same, _⟩ := decoded
    exact ⟨text, same⟩

theorem Utf8.encoded_of_json {value : Json String} (read : Json.decode? content = some value) :
    Encoded content := by
  obtain ⟨points, decoded, _⟩ := Option.bind_eq_some_iff.mp read
  exact encoded_iff.mpr ⟨points, Result.toOption_eq_some_iff.mp decoded⟩

namespace Package.Descriptor

/-- Bytes that hold a descriptor: the encoding of a JSON text whose value describes it. -/
structure Holds (content : List UInt8) (descriptor : Descriptor) : Prop where
  encoded : Utf8.Encoded content
  describes : ∃ value, Json.decode? content = some value ∧ Describes value descriptor

/-- What is wrong first with bytes that hold no descriptor. -/
inductive Unfit (content : List UInt8) : Failure → Prop where
  | notText {fault : Utf8.Fault} (unencoded : ¬ Utf8.Encoded content) :
      Unfit content (.file (.notText fault))
  | notJson (encoded : Utf8.Encoded content) (unread : Json.decode? content = none) :
      Unfit content (.descriptor [⟨[], .notJson⟩])
  | notRecord {value : Json String} (read : Json.decode? content = some value)
      (other : ∀ members, value ≠ .object members) : Unfit content (.descriptor [⟨[], .notRecord⟩])
  | wrong {members : List (String × Json String)} {faults : List Document.Fault}
      (read : Json.decode? content = some (.object members)) (some : faults ≠ [])
      (each : ∀ fault, fault ∈ faults ↔ Wrong members fault) : Unfit content (.descriptor faults)

theorem read_cases (encoded : Utf8.Encoded content) :
    (∃ descriptor, read content = .ok descriptor ∧ Holds content descriptor) ∨
      ∃ faults, read content = .error faults ∧ Unfit content (.descriptor faults) := by
  simp only [read, Document.read]
  cases value : Json.decode? content with
  | none => exact .inr ⟨_, rfl, .notJson encoded value⟩
  | some document =>
      simp only
      cases came : ofJson document with
      | ok descriptor =>
          exact .inl ⟨descriptor, rfl, encoded, document, value, ofJson_eq_ok.mp came⟩
      | error faults =>
          refine .inr ⟨faults, rfl, ?_⟩
          cases document with
          | object members =>
              have explained := ofJson_explained members
              rw [came] at explained
              refine .wrong value ?_ explained.each
              intro none
              obtain ⟨_, impossible⟩ := explained.sound none
              cases impossible
          | _ =>
              cases came
              refine .notRecord value ?_
              intro members impossible
              cases impossible

theorem Holds.read {descriptor : Descriptor} (holds : Holds content descriptor) :
    read content = .ok descriptor := by
  obtain ⟨value, decoded, describes⟩ := holds.describes
  rw [Descriptor.read, Document.read, decoded]
  exact ofJson_eq_ok.mpr describes

theorem Unfit.not_holds {failure : Failure} (unfit : Unfit content failure) (descriptor : Descriptor) :
    ¬ Holds content descriptor := by
  intro holds
  obtain ⟨value, decoded, describes⟩ := holds.describes
  cases unfit with
  | notText unencoded => exact unencoded holds.encoded
  | notJson _ unread => simp [unread] at decoded
  | notRecord read other =>
      obtain rfl := Option.some.inj (read.symm.trans decoded)
      cases describes with
      | object => exact other _ rfl
  | wrong read some each =>
      obtain rfl := Option.some.inj (read.symm.trans decoded)
      obtain ⟨fault, member⟩ := List.exists_mem_of_ne_nil _ some
      have told := ((ofJson_explained _).each fault).mpr ((each fault).mp member)
      rw [ofJson_eq_ok.mpr describes] at told
      cases told

end Package.Descriptor

namespace Command

variable {surroundings : Surroundings} {path owner : String}

open Package (Descriptor)

/-- The content of a file is a descriptor, or it fails for what is wrong with it first. -/
theorem descriptor_cases (owner : String)
    (found : surroundings.contentAt (Path.normalize path) = .ok content) :
    (∃ descriptor, (Task.package path owner).descriptor surroundings = .ok descriptor ∧
        Descriptor.Holds content descriptor) ∨
      ∃ failure, (Task.package path owner).descriptor surroundings = .error failure ∧
        Descriptor.Unfit content failure := by
  simp only [Task.descriptor, Task.descriptorIn, found, Result.mapError_ok, Result.ok_bind]
  cases decoded : Utf8.decode content with
  | error fault =>
      have unencoded : ¬ Utf8.Encoded content := by simp [Utf8.encoded_iff, decoded]
      exact .inr ⟨_, rfl, .notText unencoded⟩
  | ok points =>
      rw [Result.mapError_ok, Result.ok_bind]
      obtain ⟨descriptor, read, holds⟩ | ⟨faults, unread, unfit⟩ :=
        Descriptor.read_cases (Utf8.encoded_iff.mpr ⟨points, decoded⟩)
      · exact .inl ⟨descriptor, by rw [read, Result.mapError_ok], holds⟩
      · exact .inr ⟨.descriptor faults, by rw [unread, Result.mapError_error], unfit⟩

/-- The outcome of a check that fails on its file: nothing is asked for or noted, and nothing is written
but the error. -/
structure Refuses (content : List UInt8) (outcome : Outcome) : Prop where
  reason : ∃ failure, outcome.failure = some failure ∧ Descriptor.Unfit content failure ∧
    outcome.stderr = Output.errorLine failure.message
  quiet : outcome.stdout = ""
  silent : outcome.trace = []
  /-- The input is invalid where it is text. -/
  invalid : outcome.exitCode = 2 ↔ Utf8.Encoded content
  unreadable : outcome.exitCode = 3 ↔ ¬ Utf8.Encoded content

theorem Outcome.stderr_unnoted (code : Nat) (stdout : String) (failure : Failure) (trace : List Event) :
    stderr ⟨code, stdout, [], some failure, trace⟩ = Output.errorLine failure.message := by
  simp [stderr, stderrWith]

theorem exitCode_unfit {failure : Failure} (unfit : Descriptor.Unfit content failure) :
    (failure.exitCode = 2 ↔ Utf8.Encoded content) ∧ (failure.exitCode = 3 ↔ ¬ Utf8.Encoded content) := by
  cases unfit with
  | notText unencoded => simp [Failure.exitCode, Failure.kind, Failure.Kind.exitCode, unencoded]
  | notJson encoded _ => simp [Failure.exitCode, Failure.kind, Failure.Kind.exitCode, encoded]
  | notRecord read _ | wrong read _ _ =>
      have encoded := Utf8.encoded_of_json read
      simp [Failure.exitCode, Failure.kind, Failure.Kind.exitCode, encoded]

theorem perform_undescribed {failure : Failure} {invocation : Invocation}
    (unread : invocation.task.descriptor surroundings = .error failure) (transport : Transport World)
    (world : World) :
    perform transport surroundings invocation world = ⟨failure.exitCode, "", [], some failure, []⟩ := by
  rw [perform_eq, checked_undescribed unread]
  rfl

/-- A file is refused exactly when it holds no descriptor, whatever else is around the command line and
whatever the network would do. -/
theorem perform_unfitFile (found : surroundings.contentAt (Path.normalize path) = .ok content)
    (transport : Transport World) (verbose : Bool) (world : World) :
    (∀ descriptor, ¬ Descriptor.Holds content descriptor) ↔
      Refuses content (perform transport surroundings ⟨verbose, .package path owner⟩ world) := by
  constructor
  · intro unfit
    obtain ⟨descriptor, _, holds⟩ | ⟨failure, unread, reason⟩ := descriptor_cases owner found
    · exact absurd holds (unfit descriptor)
    rw [perform_undescribed unread]
    refine ⟨⟨failure, rfl, reason, Outcome.stderr_unnoted ..⟩, rfl, rfl, ?_, ?_⟩
    · exact (exitCode_unfit reason).1
    · exact (exitCode_unfit reason).2
  · intro refuses
    obtain ⟨failure, _, reason, _⟩ := refuses.reason
    exact reason.not_holds

/-- Surroundings with nothing in them but a file. -/
def withFile (content : List UInt8) : Surroundings where
  environment _ := none
  contentAt _ := .ok content

/-- An object in which the type is unknown, the identifier is missing and the version is a number. -/
def unfitText : List Char :=
  "\x7b\"registryType\":\"conda\",\"version\":1\x7d".toList

theorem perform_unfitText :
    (∀ descriptor, ¬ Descriptor.Holds (Utf8.encode unfitText) descriptor) ∧
      Refuses (Utf8.encode unfitText)
        (perform Script.transport (withFile (Utf8.encode unfitText))
          ⟨false, .package "package.json" "me/server"⟩ { entries := [] }) := by
  have unread : Descriptor.read (Utf8.encode unfitText) =
      .error [⟨[.field "registryType"], .unknownName⟩, ⟨[.field "identifier"], .absent⟩,
        ⟨[.field "version"], .notString⟩] := by
    decide +kernel
  have unfit (descriptor : Descriptor) : ¬ Descriptor.Holds (Utf8.encode unfitText) descriptor := by
    intro holds
    rw [holds.read] at unread
    cases unread
  exact ⟨unfit, (perform_unfitFile rfl Script.transport false { entries := [] }).mp unfit⟩

/-- Bytes that are no text hold no descriptor either, but they are not reported as invalid input. -/
theorem perform_strayByte :
    (∀ descriptor, ¬ Descriptor.Holds [0xFF] descriptor) ∧
      (perform Script.transport (withFile [0xFF]) ⟨false, .package "package.json" "me/server"⟩
        { entries := [] }).exitCode = 3 := by
  constructor
  · intro descriptor holds
    have unread : Descriptor.read [0xFF] = .error [⟨[], .notJson⟩] := by decide +kernel
    rw [holds.read] at unread
    cases unread
  · decide +kernel

end Command

end ImageOwnership
