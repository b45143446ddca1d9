import ImageOwnership.Text.Quoted

/-!
Addresses of resources, in the form in which requests are sent to them, and the ways in which a text
can fail to be one.
-/

namespace ImageOwnership

/-- An address in normal form: lower-case scheme, encoded parts, no default port. -/
structure Url where
  /-- Empty when there is none. -/
  scheme : String
  userinfo : String
  /-- The host without brackets. -/
  host : String
  port : Option Int
  path : String
  query : Option String
  fragment : Option String
deriving DecidableEq, Repr

namespace Url

/-- The parts in which a text may be at fault on its own. -/
inductive Part where
  | path
  | query
  | fragment
  | host
  | authority
deriving DecidableEq, Repr

def Part.name : Part → String
  | .path => "path"
  | .query => "query"
  | .fragment => "fragment"
  | .host => "host"
  | .authority => "authority"

/-- Why a text is no address. -/
inductive Fault where
  | tooLong
  | partTooLong (part : Part)
  | control (char : Char) (position : Nat)
  | partControl (part : Part) (char : Char) (position : Nat)
  | badPort (port : String)
  | badIpv4 (host : String)
  | badIpv6 (host : String)
  | badName (host : String)
  | pathWithoutSlash
  | pathWithTwoSlashes
  | pathWithColon
deriving DecidableEq, Repr

private def controlMessage (place : String) (char : Char) (position : Nat) : String :=
  "Invalid non-printable ASCII character in URL" ++ place ++ ", " ++
    Quoted.quoteString (String.singleton char) ++ " at position " ++ toString position ++ "."

def Fault.message : Fault → String
  | .tooLong => "URL too long"
  | .partTooLong part => "URL component '" ++ part.name ++ "' too long"
  | .control char position => controlMessage "" char position
  | .partControl part char position =>
      controlMessage (" " ++ part.name ++ " component") char position
  | .badPort port => "Invalid port: " ++ Quoted.quoteString port
  | .badIpv4 host => "Invalid IPv4 address: " ++ Quoted.quoteString host
  | .badIpv6 host => "Invalid IPv6 address: " ++ Quoted.quoteString host
  | .badName host => "Invalid IDNA hostname: " ++ Quoted.quoteString host
  | .pathWithoutSlash => "For absolute URLs, path must be empty or begin with '/'"
  | .pathWithTwoSlashes => "Relative URLs cannot have a path starting with '//'"
  | .pathWithColon => "Relative URLs cannot have a path starting with ':'"

/-- A host as it stands in an authority. -/
def bracketed (host : String) : String :=
  if host.toList.contains ':' then "[" ++ host ++ "]" else host

def hostAndPort (url : Url) : String :=
  bracketed url.host ++
    match url.port with
    | none => ""
    | some port => ":" ++ toString port

def authority (url : Url) : String :=
  (if url.userinfo.isEmpty then "" else url.userinfo ++ "@") ++ url.hostAndPort

/-- The text of an address. -/
def text (url : Url) : String :=
  (if url.scheme.isEmpty then "" else url.scheme ++ ":") ++
    (if url.authority.isEmpty then "" else "//" ++ url.authority) ++ url.path ++
    (match url.query with
      | none => ""
      | some query => "?" ++ query) ++
    match url.fragment with
    | none => ""
    | some fragment => "#" ++ fragment

instance : ToString Url := ⟨Url.text⟩

/-- Whether a host and a scheme are given. -/
def isAbsolute (url : Url) : Bool :=
  !url.scheme.isEmpty && !url.host.isEmpty

end Url

end ImageOwnership
