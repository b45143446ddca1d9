import ImageOwnership.Decimal.Reading
import ImageOwnership.Url.Address
import ImageOwnership.Url.Basic
import ImageOwnership.Url.Names

/-!
Addresses read from text. The text is split into its parts, the parts are brought into normal form,
and an address can be put together from parts again with some of them replaced. All is refused that
holds an ASCII control or is too long; after that the parts are looked at in a fixed order: host,
port, path.

Nothing is assumed about hosts beyond ASCII but what `HostNames` says: such a host is written in the
form that the tables have for it, and refused when they have none. A host of ASCII characters is not
looked up here, even if it has the mark of such a form.
-/

namespace ImageOwnership.Url

/-- The greatest number of characters of an address, and of each of its parts. -/
def lengthLimit : Nat := 65536

/-- The parts of an address as they are written. -/
structure Parts where
  scheme : List Char
  userinfo : List Char
  host : List Char
  /-- What follows the host, without the colon. -/
  port : List Char
  path : List Char
  query : Option (List Char)
  fragment : Option (List Char)
deriving DecidableEq, Repr

/-! ### Splitting a text -/

def isSchemeChar (char : Char) : Bool :=
  char.isAlphanum || char = '+' || char = '-' || char = '.'

/-- The scheme, which a colon ends, and the text after it. A colon at the very beginning ends an empty
scheme. -/
def splitScheme (text : List Char) : List Char × List Char :=
  match text with
  | [] => ([], [])
  | first :: rest =>
      if first = ':' then
        ([], rest)
      else if first.isAlpha then
        match rest.dropWhile isSchemeChar with
        | ':' :: after => (first :: rest.takeWhile isSchemeChar, after)
        | _ => ([], text)
      else
        ([], text)

def endsAuthority (char : Char) : Bool :=
  char = '/' || char = '?' || char = '#'

/-- The authority, which two slashes begin, and the text after it. -/
def splitAuthority : List Char → List Char × List Char
  | '/' :: '/' :: rest =>
      (rest.takeWhile (!endsAuthority ·), rest.dropWhile (!endsAuthority ·))
  | text => ([], text)

/-- The text before the last occurrence of a character, if there is one, and the text after it. -/
def splitLast (separator : Char) (text : List Char) : Option (List Char) × List Char :=
  let back := text.reverse
  let after := (back.takeWhile (· ≠ separator)).reverse
  match back.dropWhile (· ≠ separator) with
  | [] => (none, text)
  | _ :: before => (some before.reverse, after)

/-- A bracketed host, or all before the first colon; and the text after the host. -/
def splitHost (text : List Char) : List Char × List Char :=
  match text with
  | '[' :: _ =>
      match splitLast ']' text with
      | (some before, after) => (before ++ [']'], after)
      | (none, _) => (text.takeWhile (· ≠ ':'), text.dropWhile (· ≠ ':'))
  | _ => (text.takeWhile (· ≠ ':'), text.dropWhile (· ≠ ':'))

def splitPort : List Char → List Char
  | ':' :: port => port
  | port => port

/-- The parts of an authority; the last at sign ends the user information. -/
def ofAuthority (scheme authority path : List Char) (query fragment : Option (List Char)) : Parts :=
  let (userinfo, rest) := splitLast '@' authority
  let (host, afterHost) := splitHost rest
  ⟨scheme, userinfo.getD [], host, splitPort afterHost, path, query, fragment⟩

def splitFragment : List Char → Option (List Char)
  | [] => none
  | _ :: fragment => some fragment

def splitQuery : List Char → Option (List Char)
  | '?' :: rest => some (rest.takeWhile (· ≠ '#'))
  | _ => none

def split (text : List Char) : Parts :=
  let (scheme, afterScheme) := splitScheme text
  let (authority, afterAuthority) := splitAuthority afterScheme
  let path := afterAuthority.takeWhile fun char => char ≠ '?' && char ≠ '#'
  let afterPath := afterAuthority.dropWhile fun char => char ≠ '?' && char ≠ '#'
  ofAuthority scheme authority path (splitQuery afterPath)
    (splitFragment (afterPath.dropWhile (· ≠ '#')))

/-! ### Normal form of the parts -/

/-- Characters that can be seen, and the space. -/
def isAsciiText (char : Char) : Bool :=
  0x20 ≤ char.toNat && char.toNat ≤ 0x7E

def pathKeeps (char : Char) : Bool :=
  isAsciiText char && !(" \"#<>?\x60\x7b\x7d".toList.contains char)

def queryKeeps (char : Char) : Bool :=
  isAsciiText char && !(" \"#<>".toList.contains char)

def fragmentKeeps (char : Char) : Bool :=
  isAsciiText char && !(" \"<>\x60".toList.contains char)

def userinfoKeeps (char : Char) : Bool :=
  pathKeeps char && !("/;=@[\\]^|".toList.contains char)

def hostKeeps (char : Char) : Bool :=
  char.isAlphanum || "-._~!$&'()*+,;=\"\x60\x7b\x7d%|\\".toList.contains char

/-- The host in normal form. -/
def normalHost (names : HostNames) (host : List Char) : Except Fault (List Char) :=
  if host.isEmpty then
    .ok []
  else if Address.looksLikeIpv4 host then
    if Address.isIpv4 host then .ok host else .error (.badIpv4 (String.ofList host))
  else if host.head? = some '[' && host.getLast? = some ']' then
    let address := (host.drop 1).dropLast
    if Address.isIpv6 address then .ok address else .error (.badIpv6 (String.ofList host))
  else if isAscii host then
    .ok (Percent.encode hostKeeps (host.map Char.toLower))
  else
    match names.encode? host with
    | some form => .ok form
    | none => .error (.badName (String.ofList host))

/-- The port that a scheme has when none is given. -/
def defaultPort? (scheme : List Char) : Option Int :=
  match String.ofList scheme with
  | "ftp" => some 21
  | "http" => some 80
  | "https" => some 443
  | "ws" => some 80
  | "wss" => some 443
  | _ => none

/-- The port, unless it is the default one of the scheme as it is written. -/
def normalPort (scheme port : List Char) : Except Fault (Option Int) :=
  if port.isEmpty then
    .ok none
  else
    match Reading.integer (String.ofList port) with
    | .error _ => .error (.badPort (String.ofList port))
    | .ok number => .ok (if defaultPort? scheme = some number then none else some number)

def checkPath (hasScheme hasAuthority : Bool) (path : List Char) : Except Fault Unit :=
  if hasAuthority && !path.isEmpty && path.head? ≠ some '/' then
    .error .pathWithoutSlash
  else if !hasScheme && !hasAuthority && path.take 2 = ['/', '/'] then
    .error .pathWithTwoSlashes
  else if !hasScheme && !hasAuthority && path.head? = some ':' then
    .error .pathWithColon
  else
    .ok ()

/-- One segment more on the segments kept so far, the last of them first. A segment of two dots takes
the one before it away, but never an empty one at the beginning. -/
def keepSegment (kept : List (List Char)) (segment : List Char) : List (List Char) :=
  if segment = ['.'] then kept
  else if segment = ['.', '.'] then if kept = [[]] then kept else kept.drop 1
  else segment :: kept

def withoutDots (path : List Char) : List Char :=
  ['/'].intercalate ((path.splitOn '/').foldl keepSegment []).reverse

/-- The address that parts stand for. -/
def ofParts (names : HostNames) (parts : Parts) : Except Fault Url := do
  let scheme := parts.scheme.map Char.toLower
  let userinfo := Percent.encode userinfoKeeps parts.userinfo
  let host ← normalHost names parts.host
  let port ← normalPort parts.scheme parts.port
  let hasAuthority := !userinfo.isEmpty || !host.isEmpty || port.isSome
  checkPath (!scheme.isEmpty) hasAuthority parts.path
  let path := if !scheme.isEmpty || hasAuthority then withoutDots parts.path else parts.path
  return {
    scheme := String.ofList scheme
    userinfo := String.ofList userinfo
    host := String.ofList host
    port := port
    path := String.ofList (Percent.encode pathKeeps path)
    query := parts.query.map (String.ofList ∘ Percent.encode queryKeeps)
    fragment := parts.fragment.map (String.ofList ∘ Percent.encode fragmentKeeps) }

/-! ### Reading -/

def isAsciiControl (char : Char) : Bool :=
  char.toNat < 0x20 || char.toNat = 0x7F

/-- The first ASCII control of a text and its position. -/
def firstControl? (text : List Char) : Option (Char × Nat) :=
  (text.find? isAsciiControl).map ((·, (text.takeWhile (!isAsciiControl ·)).length))

def parse (names : HostNames) (text : String) : Except Fault Url :=
  let chars := text.toList
  if chars.length > lengthLimit then
    .error .tooLong
  else
    match firstControl? chars with
    | some (char, position) => .error (.control char position)
    | none => ofParts names (split chars)

/-! ### Replacing parts -/

/-- What is refused in any part. -/
def checkText (part : Part) (text : List Char) : Except Fault Unit :=
  if text.length > lengthLimit then
    .error (.partTooLong part)
  else
    match firstControl? text with
    | some (char, position) => .error (.partControl part char position)
    | none => .ok ()

/-- The address whose parts are written as given. -/
def ofTexts (names : HostNames) (scheme authority path : String)
    (query fragment host : Option String) : Except Fault Url := do
  checkText .authority authority.toList
  checkText .path path.toList
  checkText .query (query.getD "").toList
  checkText .fragment (fragment.getD "").toList
  checkText .host (host.getD "").toList
  let parts := ofAuthority scheme.toList authority.toList path.toList (query.map String.toList)
    (fragment.map String.toList)
  ofParts names (match host with
    | none => parts
    | some host => { parts with host := host.toList })

/-- The same address with another query. -/
def withQuery (names : HostNames) (url : Url) (query : String) : Except Fault Url :=
  ofTexts names url.scheme url.authority url.path (some query) url.fragment none

def withFragment (names : HostNames) (url : Url) (fragment : String) : Except Fault Url :=
  ofTexts names url.scheme url.authority url.path url.query (some fragment) none

/-- The same address with another host. -/
def withHost (names : HostNames) (url : Url) (host : String) : Except Fault Url :=
  ofTexts names url.scheme url.authority url.path url.query url.fragment (some (bracketed host))

/-- An address that is not absolute below an empty base: its path and query after one slash. -/
def belowRoot (names : HostNames) (url : Url) : Except Fault Url :=
  let path := if url.path.isEmpty then "/" else url.path
  let target := (path ++ (url.query.map ("?" ++ ·)).getD "").toList.dropWhile (· = '/')
  let rooted := '/' :: target
  let after := rooted.dropWhile (· ≠ '?')
  ofTexts names "" "" (String.ofList (rooted.takeWhile (· ≠ '?')))
    (match after with
      | [] => none
      | _ :: query => some (String.ofList query)) none none

/-- The fragment with its percent encoding undone. -/
def plainFragment (url : Url) : String :=
  String.ofList (Percent.decode (url.fragment.getD "").toList)

/-- The user name and the password with their percent encoding undone. -/
def credentials (url : Url) : String × String :=
  let userinfo := url.userinfo.toList
  let name := userinfo.takeWhile (· ≠ ':')
  let password := (userinfo.dropWhile (· ≠ ':')).drop 1
  (String.ofList (Percent.decode name), String.ofList (Percent.decode password))

end ImageOwnership.Url
