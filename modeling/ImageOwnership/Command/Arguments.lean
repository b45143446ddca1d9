/-!
The arguments of the command line. Options of the program stand before the command, options of a
command anywhere after it; the value of an option follows an equal sign or is the next argument,
whatever that is; two hyphens end the options. A request for help is granted before arguments are
missed, but not before options are understood.
-/

namespace ImageOwnership.Command

/-- What the program is asked to check. -/
inductive Task where
  /-- An image given by its coordinates. -/
  | image (identifier owner version registryBaseUrl : String)
  /-- A package whose descriptor is in a file. -/
  | package (path owner : String)
deriving DecidableEq, Repr

structure Invocation where
  verbose : Bool
  task : Task
deriving DecidableEq, Repr

/-- Why there is nothing to check. -/
inductive Refusal where
  | usage
  | help
  /-- The arguments of an unknown shell are to be completed. -/
  | completion
deriving DecidableEq, Repr

def Refusal.exitCode : Refusal → Nat
  | .usage => 2
  | .help => 0
  | .completion => 1

namespace Arguments

/-- What an option takes. -/
inductive Arity where
  | flag
  | value
deriving DecidableEq, Repr

/-- Options with their values in the order given, and the other arguments. -/
structure Scanned where
  options : List (String × String)
  others : List String
deriving DecidableEq, Repr

/-- The name of an option and the value attached to it by an equal sign. -/
def nameAndValue (argument : String) : String × Option String :=
  let chars := argument.toList
  let name := String.ofList (chars.takeWhile (· ≠ '='))
  match chars.dropWhile (· ≠ '=') with
  | [] => (name, none)
  | _ :: value => (name, some (String.ofList value))

def isOption (argument : String) : Bool :=
  argument.toList.head? = some '-' && argument ≠ "-"

def withOption (name value : String) (scanned : Scanned) : Scanned :=
  { scanned with options := (name, value) :: scanned.options }

def withOther (argument : String) (scanned : Scanned) : Scanned :=
  { scanned with others := argument :: scanned.others }

/-- Reads the options among arguments. Unless options may stand anywhere, the first argument that is
none of them ends the options. -/
def scan (arity? : String → Option Arity) (anywhere : Bool) :
    List String → Except Refusal Scanned
  | [] => .ok ⟨[], []⟩
  | argument :: rest =>
      if argument = "--" then
        .ok ⟨[], rest⟩
      else if isOption argument then
        let (name, attached) := nameAndValue argument
        match arity? name, attached with
        | some .flag, none => (scan arity? anywhere rest).map (withOption name "")
        | some .value, some value => (scan arity? anywhere rest).map (withOption name value)
        | some .value, none =>
            match rest with
            | value :: others => (scan arity? anywhere others).map (withOption name value)
            | [] => .error .usage
        | _, _ => .error .usage
      else if anywhere then
        (scan arity? anywhere rest).map (withOther argument)
      else
        .ok ⟨[], argument :: rest⟩

namespace Scanned

/-- The last value of an option. -/
def value? (scanned : Scanned) (name : String) : Option String :=
  scanned.options.reverse.lookup name

def has (scanned : Scanned) (name : String) : Bool :=
  (scanned.value? name).isSome

/-- The only argument besides the options. -/
def single (scanned : Scanned) : Except Refusal String :=
  match scanned.others with
  | [argument] => .ok argument
  | _ => .error .usage

def required (scanned : Scanned) (name : String) : Except Refusal String :=
  match scanned.value? name with
  | some value => .ok value
  | none => .error .usage

def checkHelp (scanned : Scanned) : Except Refusal Unit :=
  if scanned.has "--help" then .error .help else .ok ()

def checkCompletion (scanned : Scanned) : Except Refusal Unit :=
  if scanned.has "--install-completion" || scanned.has "--show-completion" then .error .completion
  else .ok ()

end Scanned

def programOptions : String → Option Arity
  | "--verbose" => some .flag
  | "--install-completion" => some .flag
  | "--show-completion" => some .flag
  | "--help" => some .flag
  | _ => none

def imageOptions : String → Option Arity
  | "--owner" => some .value
  | "--version" => some .value
  | "--registry-base-url" => some .value
  | "--help" => some .flag
  | _ => none

def packageOptions : String → Option Arity
  | "--owner" => some .value
  | "--help" => some .flag
  | _ => none

def imageTask (arguments : List String) : Except Refusal Task := do
  let scanned ← scan imageOptions true arguments
  scanned.checkHelp
  let identifier ← scanned.single
  let owner ← scanned.required "--owner"
  return .image identifier owner ((scanned.value? "--version").getD "latest")
    ((scanned.value? "--registry-base-url").getD "")

def packageTask (arguments : List String) : Except Refusal Task := do
  let scanned ← scan packageOptions true arguments
  scanned.checkHelp
  let path ← scanned.single
  if path.toList.contains '\x00' then
    throw .usage
  let owner ← scanned.required "--owner"
  return .package path owner

/-- The options of the program, unless one of them keeps it from a command. -/
def program (arguments : List String) : Except Refusal Scanned := do
  let scanned ← scan programOptions false arguments
  scanned.checkHelp
  scanned.checkCompletion
  return scanned

/-- Arguments that begin with no command may be options of the program that two hyphens have hidden;
then they may still ask for help. -/
def withoutCommand (arguments : List String) : Refusal :=
  match program arguments with
  | .error refusal => refusal
  | .ok _ => .usage

def task : List String → Except Refusal Task
  | "oci" :: arguments => imageTask arguments
  | "package" :: arguments => packageTask arguments
  | arguments => .error (withoutCommand arguments)

/-- The invocation that arguments spell. -/
def parse (arguments : List String) : Except Refusal Invocation := do
  let scanned ← program arguments
  let task ← task scanned.others
  return ⟨scanned.has "--verbose", task⟩

end Arguments

end ImageOwnership.Command
