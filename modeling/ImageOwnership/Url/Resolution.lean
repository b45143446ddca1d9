import ImageOwnership.Url.Host

/-!
References resolved against the address of the request that delivered them. A reference with another
scheme, or with one that knows no relative references, stands for itself; one with an authority keeps the
scheme of the base; any other keeps the authority and is placed beside the last segment of the path.
-/

namespace ImageOwnership.Url

namespace Reference

/-- A reference in its parts; an absent part and an empty one are the same here. -/
structure Parts where
  scheme : List Char
  authority : List Char
  path : List Char
  /-- What follows the semicolon in the last segment. -/
  parameters : List Char
  query : List Char
  fragment : List Char
deriving DecidableEq, Repr

/-- A scheme and the text after it; there is none without letters before the colon. -/
def splitScheme? (text : List Char) : Option (List Char × List Char) :=
  match Url.splitScheme text with
  | ([], _) => none
  | (scheme, rest) => some (scheme.map Char.toLower, rest)

/-- The schemes of the addresses that a reference may be relative to. -/
def relativeSchemes : List String :=
  ["", "ftp", "http", "gopher", "nntp", "imap", "wais", "file", "https", "shttp", "mms", "prospero",
    "rtsp", "rtsps", "rtspu", "sftp", "svn", "svn+ssh", "ws", "wss"]

/-- The schemes of the addresses whose last segment may have parameters. -/
def parameterSchemes : List String :=
  ["", "ftp", "hdl", "prospero", "http", "imap", "https", "shttp", "rtsp", "rtsps", "rtspu", "sip",
    "sips", "mms", "sftp", "tel"]

/-- The path and the parameters of its last segment. -/
def splitParameters (path : List Char) : List Char × List Char :=
  let last := (path.reverse.takeWhile (· ≠ '/')).reverse
  let before := path.take (path.length - last.length)
  (before ++ last.takeWhile (· ≠ ';'), (last.dropWhile (· ≠ ';')).drop 1)

def split (defaultScheme text : List Char) : Parts :=
  let (scheme, afterScheme) := (splitScheme? text).getD (defaultScheme, text)
  let (authority, afterAuthority) := splitAuthority afterScheme
  let beforeFragment := afterAuthority.takeWhile (· ≠ '#')
  let fragment := (afterAuthority.dropWhile (· ≠ '#')).drop 1
  let query := (beforeFragment.dropWhile (· ≠ '?')).drop 1
  let whole := beforeFragment.takeWhile (· ≠ '?')
  let (path, parameters) :=
    if parameterSchemes.contains (String.ofList scheme) then splitParameters whole else (whole, [])
  ⟨scheme, authority, path, parameters, query, fragment⟩

/-- The authority and the path in one text. The two slashes before an authority are written even when
it is empty, except where they would only precede two other ones. -/
def Parts.hierarchy (parts : Parts) : List Char :=
  let path := if parts.parameters.isEmpty then parts.path
    else parts.path ++ ';' :: parts.parameters
  if parts.authority.isEmpty && path.take 2 = ['/', '/'] then
    path
  else
    '/' :: '/' :: parts.authority ++
      if path.isEmpty || path.head? = some '/' then path else '/' :: path

/-- The text of the parts. -/
def Parts.text (parts : Parts) : List Char :=
  parts.scheme ++ ':' :: parts.hierarchy ++
    (if parts.query.isEmpty then [] else '?' :: parts.query) ++
    if parts.fragment.isEmpty then [] else '#' :: parts.fragment

/-- One segment more on the resolved ones, the last of them first. -/
def place (placed : List (List Char)) (segment : List Char) : List (List Char) :=
  if segment = ['.', '.'] then placed.drop 1
  else if segment = ['.'] then placed
  else segment :: placed

/-- The segments of a path that is relative to another one. Empty segments in the middle are left
out. -/
def besideSegments (base path : List Char) : List (List Char) :=
  let directory := base.splitOn '/'
  let kept := if directory.getLast? = some [] then directory else directory.dropLast
  match kept ++ path.splitOn '/' with
  | [] => []
  | first :: rest => first :: rest.dropLast.filter (· ≠ []) ++ rest.getLast?.toList

def resolvePath (base path : List Char) : List Char :=
  let segments := if path.head? = some '/' then path.splitOn '/' else besideSegments base path
  let placed := segments.foldl place []
  let last := segments.getLast?
  let closed := if last = some ['.'] || last = some ['.', '.'] then [] :: placed else placed
  let resolved := ['/'].intercalate closed.reverse
  if resolved.isEmpty then ['/'] else resolved

/-- What a reference with the scheme of a base means beside it. -/
def combine (base reference : Parts) : Parts :=
  if !reference.authority.isEmpty then
    reference
  else if reference.path.isEmpty && reference.parameters.isEmpty then
    { base with
      query := if reference.query.isEmpty then base.query else reference.query
      fragment := reference.fragment }
  else
    { reference with
      authority := base.authority
      path := resolvePath base.path reference.path }

/-- The text of a reference seen from a base. The empty reference means the base, whatever it is. -/
def resolve (base reference : List Char) : Except Host.Fault (List Char) :=
  if reference.isEmpty then
    .ok base
  else do
    let whole := split [] base
    let parts := split whole.scheme reference
    Host.check whole.authority
    Host.check parts.authority
    if parts.scheme ≠ whole.scheme || !relativeSchemes.contains (String.ofList parts.scheme) then
      return reference
    else
      return (combine whole parts).text

/-- Whether a text begins with a scheme, as far as the colon after it goes: it comes after some characters
and before any slash. -/
def beginsWithScheme (text : List Char) : Bool :=
  let continues char := char ≠ '/' && char ≠ ':'
  match text.takeWhile continues, text.dropWhile continues with
  | _ :: _, ':' :: _ => true
  | _, _ => false

end Reference

/-- The text of the address that a reference means, seen from a base. -/
def resolve (base reference : Url) : Except Host.Fault String :=
  (Reference.resolve base.text.toList reference.text.toList).map String.ofList

/-- Whether the host can be told from the text of an address. -/
def checkHost (url : Url) : Except Host.Fault Unit :=
  if Reference.beginsWithScheme url.text.toList then
    Host.check (Reference.split [] url.text.toList).authority
  else
    .error (.untyped { url with fragment := url.fragment.filter (!·.isEmpty) }.text)

end ImageOwnership.Url
