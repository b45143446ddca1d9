import ImageOwnership.Command.Check
import ImageOwnership.Http.Recording

/-!
The command line. The environment, the file of a package and the recorded answers of the network, one a
line on the standard input, are read first; what follows from them is decided by `Command.perform`.
-/

namespace ImageOwnership.Command

/-- The values of the variables that are set. -/
def environment : IO Settings.Environment := do
  let timeout ← IO.getEnv (Settings.Variable.name .timeout)
  let retries ← IO.getEnv (Settings.Variable.name .retries)
  let userAgent ← IO.getEnv (Settings.Variable.name .userAgent)
  let tokenUrl ← IO.getEnv (Settings.Variable.name .tokenUrl)
  let skipsRateLimit ← IO.getEnv (Settings.Variable.name .skipsRateLimit)
  return fun
    | .timeout => timeout
    | .retries => retries
    | .userAgent => userAgent
    | .tokenUrl => tokenUrl
    | .skipsRateLimit => skipsRateLimit

/-- The content of a file, or why there is none. -/
def content (path : String) : IO (Except FileFault (List UInt8)) := do
  try
    let bytes ← IO.FS.readBinFile path
    return .ok bytes.toList
  catch
    | .noFileOrDirectory _ _ _ => return .error (.missing path)
    | .inappropriateType _ 20 _ => return .error (.throughFile path)
    | .inappropriateType _ _ _ => return .error (.directory path)
    | reason => return .error (.unreadable (toString reason))

/-- The lines of a stream up to its end, without those that are blank. -/
partial def recordedAnswers (input : IO.FS.Stream) : IO (List (List UInt8)) := do
  let line ← input.getLine
  if line.isEmpty then
    return []
  let others ← recordedAnswers input
  return if line.trimAscii.isEmpty then others else Utf8.encode line.toList :: others

/-- The content of the file that a task names, if it names one. -/
def contentFor : Task → IO (Except FileFault (List UInt8))
  | .image _ _ _ _ => return .error (.missing "")
  | .package path _ => content (Path.normalize path)

def carryOut (invocation : Invocation) : IO UInt32 := do
  let environment ← environment
  let content ← contentFor invocation.task
  let recorded ← recordedAnswers (← IO.getStdin)
  let outcome := perform Http.Script.transport ⟨environment, fun _ => content⟩ invocation
    (Http.Recording.world recorded)
  IO.print outcome.stdout
  IO.eprint outcome.stderr
  return outcome.exitCode.toUInt32

end ImageOwnership.Command

def main (arguments : List String) : IO UInt32 := do
  match ImageOwnership.Command.Arguments.parse arguments with
  | .error refusal =>
      match refusal with
      | .help => IO.print ImageOwnership.Command.Output.usage
      | .usage => IO.eprint ImageOwnership.Command.Output.usage
      | .completion => IO.eprintln "The shell is not known."
      return refusal.exitCode.toUInt32
  | .ok invocation => ImageOwnership.Command.carryOut invocation
