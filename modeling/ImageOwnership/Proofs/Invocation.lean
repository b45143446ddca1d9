import ImageOwnership.Command.Check
import ImageOwnership.Proofs.Session

/-!
Invocations of the command line. A task fails before anything is asked for, or it is told by the calls
of the validation that it comes to; nobody can cancel it.
-/

namespace ImageOwnership

open Http

variable {World : Type}

namespace Command

section Runs

variable (transport : Transport World) (surroundings : Surroundings) (task : Task) (world : World)

/-- The run of a task from a world on. -/
def checked : Except Failure Package.Descriptor × Run World Log.Entry :=
  Action.perform (check transport surroundings task) { world }

/-- What a validation of the task's claim comes to. -/
def validated (descriptor : Package.Descriptor) (settings : Settings) :
    Except Failure Unit × Run World Log.Entry :=
  Action.perform
    ((task.claim descriptor settings).validate transport.unattended surroundings.environment) { world }

/-- A task that comes as far as a registry, with the calls that it makes there. -/
structure Consults (descriptor : Package.Descriptor) (settings : Settings) (target : Claim.Target)
    (registry : Registry) (exchanges : List Exchange) : Prop where
  obtained : task.descriptor surroundings = .ok descriptor
  configured : Settings.ofEnvironment surroundings.environment = .ok settings
  isImage : descriptor.registryType = .oci
  exchanged : (task.claim descriptor settings).Exchanged transport.unattended
    surroundings.environment { world } target registry exchanges

/-- The calls that are made for a task. -/
inductive Calls : List Exchange → Prop where
  | none (silent : (checked transport surroundings task world).2.trace = []) : Calls []
  | made {descriptor : Package.Descriptor} {settings : Settings} {target : Claim.Target}
      {registry : Registry} {exchanges : List Exchange}
      (consults : Consults transport surroundings task world descriptor settings target registry
        exchanges) : Calls exchanges

end Runs

variable {transport : Transport World} {surroundings : Surroundings} {task : Task} {world : World}
  {descriptor : Package.Descriptor} {settings : Settings} {target : Claim.Target}
  {registry : Registry} {exchanges : List Exchange} {failure : Failure}

/-! ### How a task is carried out -/

theorem descriptor_premature (unread : task.descriptor surroundings = .error failure) :
    failure.isPremature = true := by
  cases task with
  | image => cases unread
  | package path owner =>
      simp only [Task.descriptor, Task.descriptorIn, Result.bind_eq_error, Result.mapError_eq_error]
        at unread
      obtain ⟨_, _, rfl⟩ | ⟨_, _, ⟨_, _, rfl⟩ | ⟨_, _, _, _, rfl⟩⟩ := unread
      all_goals rfl

theorem checked_undescribed (unread : task.descriptor surroundings = .error failure) :
    checked transport surroundings task world = (.error failure, { world }) := by
  simp [checked, check, unread]

theorem checked_unset {fault : Settings.Fault}
    (obtained : task.descriptor surroundings = .ok descriptor)
    (unset : Settings.ofEnvironment surroundings.environment = .error fault) :
    checked transport surroundings task world = (.error (.settings fault), { world }) := by
  simp [checked, check, obtained, unset]

theorem checked_validated (obtained : task.descriptor surroundings = .ok descriptor)
    (configured : Settings.ofEnvironment surroundings.environment = .ok settings) :
    checked transport surroundings task world =
      ((validated transport surroundings task world descriptor settings).1.map fun _ => descriptor,
        (validated transport surroundings task world descriptor settings).2) := by
  simp only [checked, check, obtained, configured, validated, Result.mapError_ok, Action.ofExcept_ok,
    pure_bind, Action.perform_bind]
  cases Action.perform ((task.claim descriptor settings).validate transport.unattended
    surroundings.environment) { world } with
  | mk result run => cases result <;> rfl

theorem checked_eq_ok_iff :
    (checked transport surroundings task world).1 = .ok descriptor ↔
      task.descriptor surroundings = .ok descriptor ∧
      ∃ settings, Settings.ofEnvironment surroundings.environment = .ok settings ∧
        (validated transport surroundings task world descriptor settings).1 = .ok () := by
  cases obtained : task.descriptor surroundings with
  | error failure => simp [checked_undescribed obtained]
  | ok found =>
      cases configured : Settings.ofEnvironment surroundings.environment with
      | error fault => simp [checked_unset obtained configured]
      | ok settings =>
          rw [checked_validated obtained configured]
          simp only [Except.ok.injEq, exists_eq_left']
          constructor
          · intro passed
            cases verdict : (validated transport surroundings task world found settings).1 with
            | error failure => simp [verdict, Except.map] at passed
            | ok _ =>
                simp only [verdict, Except.map, Except.ok.injEq] at passed
                subst passed
                exact ⟨rfl, verdict⟩
          · intro shown
            obtain ⟨rfl, passed⟩ := shown
            rw [passed]
            rfl

theorem validated_image (isImage : descriptor.registryType = .oci) :
    validated transport surroundings task world descriptor settings =
      Action.perform ((task.claim descriptor settings).validateImage transport.unattended
        surroundings.environment) { world } := by
  simp only [validated, Claim.validate, Task.claim, isImage]

/-- A task fails prematurely and without events, or it consults a registry. -/
theorem premature_or_consults (transport : Transport World) (surroundings : Surroundings) (task : Task)
    (world : World) :
    (∃ failure, failure.isPremature = true ∧
        (checked transport surroundings task world).1 = .error failure ∧
        (checked transport surroundings task world).2.trace = []) ∨
      ∃ descriptor settings target registry exchanges,
        Consults transport surroundings task world descriptor settings target registry exchanges := by
  cases obtained : task.descriptor surroundings with
  | error failure =>
      rw [checked_undescribed obtained]
      exact .inl ⟨failure, descriptor_premature obtained, rfl, rfl⟩
  | ok descriptor =>
      cases configured : Settings.ofEnvironment surroundings.environment with
      | error fault =>
          rw [checked_unset obtained configured]
          exact .inl ⟨.settings fault, rfl, rfl, rfl⟩
      | ok settings =>
          rw [checked_validated obtained configured]
          by_cases isImage : descriptor.registryType = .oci
          · rw [validated_image isImage]
            obtain ⟨failure, premature, failed, silent⟩ | ⟨target, registry, exchanges, exchanged⟩ :=
              (task.claim descriptor settings).premature_or_exchanged transport.unattended
                surroundings.environment { world }
            · exact .inl ⟨failure, premature, by rw [failed]; rfl, silent⟩
            · exact .inr ⟨descriptor, settings, target, registry, exchanges,
                obtained, configured, isImage, exchanged⟩
          · refine .inl ⟨.registryType descriptor.registryType, rfl, ?_⟩
            have refused : validated transport surroundings task world descriptor settings =
                (.error (.registryType descriptor.registryType), { world }) := by
              simp only [validated, Claim.validate, Task.claim]
              rfl
            rw [refused]
            exact ⟨rfl, rfl⟩

namespace Consults

theorem settings_eq
    (consults : Consults transport surroundings task world descriptor settings target registry
      exchanges) : target.settings = settings := by
  have given := (Claim.target_eq_ok_iff.mp consults.exchanged.settled).1
  exact (Except.ok.inj given).symm

/-- The calls are those of one conversation, and nobody cancels before the verdict on it. -/
theorem concluded
    (consults : Consults transport surroundings task world descriptor settings target registry
      exchanges) :
    ∃ fetched after,
      Conversation transport.unattended registry target.image true (registry.entering .tag) world
        exchanges fetched after ∧
      (checked transport surroundings task world).1 =
        (target.conclusion ((task.claim descriptor settings).judgement target false fetched)).map
          fun _ => descriptor := by
  obtain ⟨fetched, after, _, conversation, _⟩ := consults.exchanged.concluded
  obtain ⟨notes, performed⟩ := Claim.perform_validateImage_of_conversation transport.unattended
    consults.exchanged.settled consults.exchanged.made conversation
  refine ⟨fetched, after, conversation, ?_⟩
  rw [checked_validated consults.obtained consults.configured, validated_image consults.isImage,
    performed]
  rfl

theorem trace
    (consults : Consults transport surroundings task world descriptor settings target registry
      exchanges) :
    (checked transport surroundings task world).2.trace =
      registry.opening ++ exchanges.flatMap Exchange.events ++ registry.closing true := by
  rw [checked_validated consults.obtained consults.configured, validated_image consults.isImage,
    consults.exchanged.trace]
  rfl

end Consults

/-! ### What is reported -/

section Reports

variable (transport : Transport World) (surroundings : Surroundings) (invocation : Invocation)
  (world : World)

theorem perform_eq :
    perform transport surroundings invocation world =
      match checked transport surroundings invocation.task world with
      | (.ok descriptor, run) =>
          ⟨0, Output.okLine descriptor.identifier descriptor.version invocation.task.owner,
            run.notes.filter (Output.isShown invocation.verbose), none, run.trace⟩
      | (.error failure, run) =>
          ⟨failure.exitCode, "", run.notes.filter (Output.isShown invocation.verbose), some failure,
            run.trace⟩ := by
  simp only [perform, checked, Action.perform]
  generalize (check transport surroundings invocation.task).run.run { world } = came
  rcases came with ⟨_ | _, run⟩ <;> rfl

theorem perform_trace :
    (perform transport surroundings invocation world).trace =
      (checked transport surroundings invocation.task world).2.trace := by
  rw [perform_eq]
  rcases checked transport surroundings invocation.task world with ⟨_ | _, run⟩ <;> rfl

variable {transport surroundings invocation world}

theorem perform_ok
    (passed : (checked transport surroundings invocation.task world).1 = .ok descriptor) :
    (perform transport surroundings invocation world).exitCode = 0 ∧
      (perform transport surroundings invocation world).failure = none ∧
      (perform transport surroundings invocation world).stdout =
        Output.okLine descriptor.identifier descriptor.version invocation.task.owner := by
  rw [perform_eq]
  rcases came : checked transport surroundings invocation.task world with ⟨_ | found, run⟩
  · simp [came] at passed
  · obtain rfl : found = descriptor := by simpa [came] using passed
    exact ⟨rfl, rfl, rfl⟩

theorem perform_error
    (failed : (checked transport surroundings invocation.task world).1 = .error failure) :
    (perform transport surroundings invocation world).exitCode = failure.exitCode ∧
      (perform transport surroundings invocation world).failure = some failure ∧
      (perform transport surroundings invocation world).stdout = "" := by
  rw [perform_eq]
  rcases came : checked transport surroundings invocation.task world with ⟨cause | _, run⟩
  · obtain rfl : cause = failure := by simpa [came] using failed
    exact ⟨rfl, rfl, rfl⟩
  · simp [came] at failed

end Reports

end Command

end ImageOwnership
