import ImageOwnership.Url.Parsing

/-!
The host of an address, as far as it can be told. Brackets enclose a host: a numeric address with
colons, or an address of a later version. As soon as both brackets occur anywhere in an authority, its
host has to be one of these, also where the brackets themselves belong to the user information.
-/

namespace ImageOwnership.Url

namespace Host

/-- Why the host of an address cannot be told. -/
inductive Fault where
  /-- The text of the address does not begin with a scheme. -/
  | untyped (text : String)
  /-- One bracket has no partner, or something other than a port stands beside the two. -/
  | misplacedBracket
  /-- The host begins like an address of a later version and is none. -/
  | badLaterAddress
  /-- The host is an address of four octets. -/
  | octets
  | noAddress (host : String)
  /-- A character of the authority can be taken for a separator. -/
  | hiddenSeparator (authority : String)
  /-- The host is marked as a form, and there is no name behind it. -/
  | unreadableName (reason : String)
deriving DecidableEq, Repr

def Fault.message : Fault → String
  | .untyped text => "unknown url type: " ++ Quoted.quoteString text
  | .misplacedBracket => "Invalid IPv6 URL"
  | .badLaterAddress => "IPvFuture address is invalid"
  | .octets => "An IPv4 address cannot be in brackets"
  | .noAddress host =>
      Quoted.quoteString host ++ " does not appear to be an IPv4 or IPv6 address"
  | .hiddenSeparator authority =>
      "netloc '" ++ authority ++ "' contains invalid characters under NFKC normalization"
  | .unreadableName reason => reason

/-- An address of a later version without its first letter: the version in hexadecimal digits, a dot,
and some text. -/
def isLaterAddress (text : List Char) : Bool :=
  let isDigit char := (Percent.hexValue? char).isSome
  match text.takeWhile isDigit, text.dropWhile isDigit with
  | _ :: _, '.' :: _ :: _ => true
  | _, _ => false

def checkAddress : List Char → Except Fault Unit
  | 'v' :: text => if isLaterAddress text then .ok () else .error .badLaterAddress
  | host =>
      if Address.isIpv4 host then .error .octets
      else if Address.isIpv6 host then .ok ()
      else .error (.noAddress (String.ofList host))

/-- The host of an authority without its user information. A bracketed host ends at the first closing
bracket, also where a zone holds another one; any other host ends at the first colon. -/
def ofAuthority? (text : List Char) : Option (List Char) :=
  if text.contains '[' then
    match text with
    | '[' :: bracketed =>
        let after := (bracketed.dropWhile (· ≠ ']')).drop 1
        if after.isEmpty || after.head? = some ':' then some (bracketed.takeWhile (· ≠ ']'))
        else none
    | _ => none
  else
    some (text.takeWhile (· ≠ ':'))

def checkBrackets (authority : List Char) : Except Fault Unit :=
  match authority.contains '[', authority.contains ']' with
  | false, false => .ok ()
  | true, true =>
      match ofAuthority? (splitLast '@' authority).2 with
      | none => .error .misplacedBracket
      | some host => checkAddress host
  | _, _ => .error .misplacedBracket

/-- The characters whose compatibility form holds a separator of the parts of an address. -/
def hidesSeparator (char : Char) : Bool :=
  ("\u2047\u2048\u2049\u2100\u2101\u2105\u2106\u2a74\ufe13\ufe16" ++
    "\ufe55\ufe56\ufe5f\ufe6b\uff03\uff0f\uff1a\uff1f\uff20").toList.contains char

/-- Whether the host of an authority can be told. -/
def check (authority : List Char) : Except Fault Unit := do
  checkBrackets authority
  if authority.any hidesSeparator then
    throw (.hiddenSeparator (String.ofList authority))

end Host

/-- The host as it is read. -/
def hostName (names : HostNames) (url : Url) : Except Host.Fault String :=
  match names.read url.host.toList with
  | .ok name => .ok (String.ofList name)
  | .error reason => .error (.unreadableName reason)

end ImageOwnership.Url
