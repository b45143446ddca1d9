import ImageOwnership.Log

/-!
What the command line writes. Control sequences of terminals are left out of the lines about the
outcome, and each kind of failure has an exit code.
-/

namespace ImageOwnership

/-- The exit code that a kind of failure ends with. -/
def Failure.Kind.exitCode : Failure.Kind → Nat
  | .imageNotFound => 1
  | .document | .value | .registryType | .baseUrl | .identifier => 2
  | .token => 4
  | .labelMissing => 10
  | .labelMismatch => 11
  | _ => 3

def Failure.exitCode (failure : Failure) : Nat :=
  failure.kind.exitCode

namespace Command.Output

def escape : Char := '\x1b'

def isParameter (char : Char) : Bool :=
  char.isDigit || char = ';' || char = '?'

/-- The text without control sequences: the escape character, a bracket, parameters and a letter.
What has been read of a sequence is held back, the last character first, until it is clear whether the
sequence is one. -/
def withoutSequencesFrom : (held : List Char) → List Char → List Char
  | held, [] => held.reverse
  | [], char :: rest =>
      if char = escape then withoutSequencesFrom [char] rest
      else char :: withoutSequencesFrom [] rest
  | [start], char :: rest =>
      if char = '[' then withoutSequencesFrom [char, start] rest
      else if char = escape then start :: withoutSequencesFrom [char] rest
      else start :: char :: withoutSequencesFrom [] rest
  | held, char :: rest =>
      if isParameter char then withoutSequencesFrom (char :: held) rest
      else if char.isAlpha then withoutSequencesFrom [] rest
      else if char = escape then held.reverse ++ withoutSequencesFrom [char] rest
      else held.reverse ++ char :: withoutSequencesFrom [] rest

/-- A line about the outcome, without control sequences. -/
def line (text : String) : String :=
  String.ofList (withoutSequencesFrom [] (text ++ "\n").toList)

def errorLine (message : String) : String :=
  line ("Error: " ++ message)

def okLine (identifier version owner : String) : String :=
  line ("OK: " ++ identifier ++ ":" ++ version ++ " belongs to " ++ owner)

/-- A line about a log entry, given the wording of failures. -/
def logLine (failureMessage : Failure → String) (entry : Log.Entry) : String :=
  entry.level.name ++ " mcp_registry_validators." ++ entry.source ++ ": " ++
    entry.messageWith failureMessage ++ "\n"

/-- What the command line understands. -/
def usage : String :=
  "Usage: image-ownership [--verbose] COMMAND\n\n" ++
    "Check that a published package belongs to the server that claims it.\n\n" ++
    "Commands:\n" ++
    "  oci IDENTIFIER --owner OWNER [--version TAG] [--registry-base-url URL]\n" ++
    "  package FILE --owner OWNER\n"

/-- Whether an entry is shown. -/
def isShown (verbose : Bool) (entry : Log.Entry) : Bool :=
  verbose || Log.Level.warning.rank ≤ entry.level.rank

end Command.Output

end ImageOwnership
