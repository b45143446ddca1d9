import ImageOwnership.Decimal.Notation
import ImageOwnership.Decimal.Reading

/-!
Settings of a validation. A draft holds whatever was given; `Draft.check` refuses the first value that
is unusable. Settings that are not given are read from the environment, where a text that is empty
leaves a number, the user agent and the token service at their defaults.
-/

namespace ImageOwnership

/-- A number of seconds, whole when it was given as an integer. -/
inductive Timeout where
  | whole (seconds : Int)
  | real (seconds : Binary64)
deriving DecidableEq, Repr

namespace Timeout

def atMostZero : Timeout → Bool
  | .whole seconds => seconds ≤ 0
  | .real seconds => seconds.atMostZero

def text : Timeout → String
  | .whole seconds => toString seconds
  | .real seconds => String.ofList seconds.toChars

end Timeout

/-- Settings that have been checked. -/
structure Settings where
  timeout : Timeout
  /-- How often a request that timed out is repeated. -/
  retries : Nat
  userAgent : String
  /-- The address of the token service. -/
  tokenUrl : String
  /-- Whether a registry that limits the rate of requests counts as a pass. -/
  skipsRateLimit : Bool
deriving DecidableEq, Repr

namespace Settings

/-- Why settings are refused. -/
inductive Fault where
  | number (fault : Reading.Fault)
  | timeoutNotPositive (timeout : Timeout)
  | negativeRetries (retries : Int)
  | noUserAgent
  | badTokenUrl (url : Option String)
deriving DecidableEq, Repr

def Fault.message : Fault → String
  | .number fault => fault.message
  | .timeoutNotPositive timeout => "http_timeout_s must be positive, got " ++ timeout.text
  | .negativeRetries retries => "http_retry must be non-negative, got " ++ toString retries
  | .noUserAgent => "user_agent is required"
  | .badTokenUrl url => "Invalid docker_auth_url format: " ++ url.getD "None"

namespace TokenUrl

def isHostChar (char : Char) : Bool :=
  char.isAlphanum || char = '.' || char = '-'

/-- Nothing, or a single line feed. -/
def isEnd (text : List Char) : Bool :=
  text = [] || text = ['\n']

/-- Nothing or a path, and perhaps a line feed at the very end. -/
def endsWell (text : List Char) : Bool :=
  match text with
  | '/' :: path => isEnd (path.dropWhile (· ≠ '\n'))
  | _ => isEnd text

/-- A port is a colon and digits; a colon without digits does not begin one. -/
def afterPort (text : List Char) : List Char :=
  match text with
  | ':' :: rest =>
      if (rest.takeWhile Char.isDigit).isEmpty then text else rest.dropWhile Char.isDigit
  | _ => text

/-- The text after the scheme, for the two schemes that are allowed. -/
def afterScheme? : List Char → Option (List Char)
  | 'h' :: 't' :: 't' :: 'p' :: ':' :: '/' :: '/' :: rest => some rest
  | 'h' :: 't' :: 't' :: 'p' :: 's' :: ':' :: '/' :: '/' :: rest => some rest
  | _ => none

/-- Whether a text has the form of an address: a scheme, a host, and perhaps a port and a path. -/
def isWellFormed (text : List Char) : Bool :=
  match afterScheme? text with
  | none => false
  | some rest =>
      !(rest.takeWhile isHostChar).isEmpty && endsWell (afterPort (rest.dropWhile isHostChar))

end TokenUrl

def defaultTimeout : Timeout := .real (Binary64.ofDecimal false [1, 0] 0)

def defaultUserAgent : String := "MCP-Registry-Validator/1.0"

def defaultTokenUrl : String := "https://auth.docker.io/token"

/-- Settings as they are given; a text may be missing altogether. -/
structure Draft where
  timeout : Timeout := defaultTimeout
  retries : Int := 0
  userAgent : Option String := some defaultUserAgent
  tokenUrl : Option String := some defaultTokenUrl
  skipsRateLimit : Bool := true
deriving DecidableEq, Repr

namespace Draft

def checkUserAgent : Option String → Except Fault String
  | none => .error .noUserAgent
  | some text => if text.isEmpty then .error .noUserAgent else .ok text

def checkTokenUrl : Option String → Except Fault String
  | none => .error (.badTokenUrl none)
  | some url => if TokenUrl.isWellFormed url.toList then .ok url else .error (.badTokenUrl (some url))

/-- The settings of a draft, or the first fault in it. -/
def check (draft : Draft) : Except Fault Settings := do
  if draft.timeout.atMostZero then
    throw (.timeoutNotPositive draft.timeout)
  if draft.retries < 0 then
    throw (.negativeRetries draft.retries)
  let userAgent ← checkUserAgent draft.userAgent
  let tokenUrl ← checkTokenUrl draft.tokenUrl
  return ⟨draft.timeout, draft.retries.toNat, userAgent, tokenUrl, draft.skipsRateLimit⟩

end Draft

/-- The environment variables that settings are read from. -/
inductive Variable where
  | timeout
  | retries
  | userAgent
  | tokenUrl
  | skipsRateLimit
deriving DecidableEq, Repr

def Variable.name : Variable → String
  | .timeout => "MCP_REGISTRY_OCI_TIMEOUT"
  | .retries => "MCP_REGISTRY_OCI_RETRY"
  | .userAgent => "MCP_REGISTRY_OCI_USER_AGENT"
  | .tokenUrl => "MCP_REGISTRY_DOCKER_AUTH_URL"
  | .skipsRateLimit => "MCP_REGISTRY_OCI_SKIP_ON_RATE_LIMIT"

/-- The values of the variables that are set. -/
abbrev Environment := Variable → Option String

namespace Environment

/-- The value of a variable, unless it is empty. -/
def nonempty? (environment : Environment) (name : Variable) : Option String :=
  (environment name).filter (!·.isEmpty)

def timeout (environment : Environment) : Except Fault Timeout :=
  match environment.nonempty? .timeout with
  | none => .ok defaultTimeout
  | some text => ((Reading.real text).map .real).mapError .number

def retries (environment : Environment) : Except Fault Int :=
  match environment.nonempty? .retries with
  | none => .ok 0
  | some text => (Reading.integer text).mapError .number

def userAgent (environment : Environment) : String :=
  (environment.nonempty? .userAgent).getD defaultUserAgent

def tokenUrl (environment : Environment) : String :=
  (environment.nonempty? .tokenUrl).getD defaultTokenUrl

/-- Here an empty text is a value like any other, and it does not stand for yes. -/
def skipsRateLimit (environment : Environment) : Bool :=
  let text := (environment .skipsRateLimit).getD "true"
  ["true", "1", "yes", "on"].contains text.toLower

def draft (environment : Environment) : Except Fault Draft := do
  let timeout ← environment.timeout
  let retries ← environment.retries
  return ⟨timeout, retries, some environment.userAgent, some environment.tokenUrl,
    environment.skipsRateLimit⟩

end Environment

/-- The settings that the environment gives. -/
def ofEnvironment (environment : Environment) : Except Fault Settings := do
  let draft ← environment.draft
  draft.check

end Settings

end ImageOwnership
