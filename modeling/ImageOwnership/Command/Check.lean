import ImageOwnership.Command.Arguments
import ImageOwnership.Command.Output
import ImageOwnership.Command.Path
import ImageOwnership.Ownership

/-!
One use of the command line: the arguments are read, the descriptor is had from them or from a file,
the settings from the environment, and the claim is validated. The outcome is an exit code, a line on
the standard output when the claim holds, and lines on the error stream.
-/

namespace ImageOwnership.Command

/-- Everything around the command line but the network. -/
structure Surroundings where
  environment : Settings.Environment
  /-- The content of the file at a path. -/
  contentAt : String → Except FileFault (List UInt8)

namespace Task

def owner : Task → String
  | .image _ owner _ _ => owner
  | .package _ owner => owner

/-- The descriptor in a file, which has to be text. -/
def descriptorIn (contentAt : String → Except FileFault (List UInt8)) (path : String) :
    Except Failure Package.Descriptor := do
  let content ← (contentAt (Path.normalize path)).mapError .file
  let _ ← (Utf8.decode content).mapError (.file ∘ .notText)
  (Package.Descriptor.read content).mapError .descriptor

def descriptor (surroundings : Surroundings) : Task → Except Failure Package.Descriptor
  | .image identifier _ version registryBaseUrl =>
      .ok ⟨.oci, registryBaseUrl, identifier, version⟩
  | .package path _ => descriptorIn surroundings.contentAt path

/-- What is claimed about a descriptor. -/
def claim (task : Task) (descriptor : Package.Descriptor) (settings : Settings) : Claim :=
  { descriptor, owner := task.owner, settings := some settings }

end Task

variable {World : Type} (transport : Http.Transport World)

/-- Checks what is asked for; the descriptor is given back when the claim holds. There is no way to
cancel from the command line. -/
def check (surroundings : Surroundings) (task : Task) :
    Registry.Action World Package.Descriptor := do
  let descriptor ← Http.Action.ofExcept (task.descriptor surroundings)
  let settings ←
    Http.Action.ofExcept ((Settings.ofEnvironment surroundings.environment).mapError .settings)
  (task.claim descriptor settings).validate transport.unattended surroundings.environment
  return descriptor

structure Outcome where
  exitCode : Nat
  stdout : String
  /-- The log entries that are shown. -/
  notes : List Log.Entry
  failure : Option Failure
  trace : List Http.Event

namespace Outcome

/-- The outcome when there is nothing to check. -/
def refused (refusal : Refusal) : Outcome :=
  ⟨refusal.exitCode, "", [], none, []⟩

/-- The text on the error stream, given the wording of failures. -/
def stderrWith (outcome : Outcome) (failureMessage : Failure → String) : String :=
  String.join (outcome.notes.map (Output.logLine failureMessage)) ++
    match outcome.failure with
    | none => ""
    | some failure => Output.errorLine (failureMessage failure)

def stderr (outcome : Outcome) : String :=
  outcome.stderrWith Failure.message

end Outcome

/-- Carries out an invocation in a world. -/
def perform (surroundings : Surroundings) (invocation : Invocation) (world : World) : Outcome :=
  let task := invocation.task
  let (result, run) := (check transport surroundings task).run.run { world }
  let notes := run.notes.filter (Output.isShown invocation.verbose)
  match result with
  | .ok descriptor =>
      ⟨0, Output.okLine descriptor.identifier descriptor.version task.owner, notes, none, run.trace⟩
  | .error failure => ⟨failure.exitCode, "", notes, some failure, run.trace⟩

def run (surroundings : Surroundings) (arguments : List String) (world : World) : Outcome :=
  match Arguments.parse arguments with
  | .error refusal => .refused refusal
  | .ok invocation => perform transport surroundings invocation world

end ImageOwnership.Command
