import ImageOwnership.Http.Cookie

/-!
Redirects: which responses are followed, to which address, and with which headers. Credentials stay
with their scheme, host and port; only a move from the plain to the secure scheme of one host keeps
them as well. A location may have any scheme. Hosts are compared as they are read, so that a form
without a name fails wherever two hosts are compared.
-/

namespace ImageOwnership.Http

/-- The address that a response redirects to, if it does. -/
def Response.redirect? (response : Response) : Option String :=
  if [301, 302, 303, 307, 308].contains response.status then response.location else none

namespace Redirect

/-- How many redirects are followed for one call. -/
def limit : Nat := 20

def badLocation (fault : Url.Fault) : RequestError :=
  ⟨.remoteProtocolError, "Invalid URL in location header: " ++ fault.message ++ "."⟩

def tooMany : RequestError :=
  ⟨.tooManyRedirects, "Exceeded maximum allowed redirects."⟩

/-- The port that is meant when none is given. -/
def effectivePort (url : Url) : Option Int :=
  match url.port with
  | some port => some port
  | none => if url.scheme = "http" then some 80 else if url.scheme = "https" then some 443 else none

def sameOrigin (names : Url.HostNames) (first second : Url) : Except Fault Bool :=
  if first.scheme ≠ second.scheme then
    .ok false
  else do
    let firstHost ← (first.hostName names).mapError .host
    let secondHost ← (second.hostName names).mapError .host
    return firstHost = secondHost && effectivePort first = effectivePort second

/-- Whether a redirect only moves from the plain to the secure scheme. -/
def isUpgrade (names : Url.HostNames) (old new : Url) : Except Fault Bool := do
  let oldHost ← (old.hostName names).mapError .host
  let newHost ← (new.hostName names).mapError .host
  return oldHost = newHost && old.scheme = "http" && effectivePort old = some 80 &&
    new.scheme = "https" && effectivePort new = some 443

/-- A scheme without a host gets the host of the request. -/
def withHost (names : Url.HostNames) (base location : Url) : Except Fault Url :=
  if location.scheme.isEmpty then
    .ok location
  else do
    let host ← (location.hostName names).mapError .host
    if host.isEmpty then
      let baseHost ← (base.hostName names).mapError .host
      (location.withHost names baseHost).mapError .url
    else
      return location

def resolve (names : Url.HostNames) (base location : Url) : Except Fault Url :=
  if location.isAbsolute then
    .ok location
  else do
    let text ← (base.resolve location).mapError .host
    (Url.parse names text).mapError .url

/-- The fragment of the request stays when the location has none. -/
def withFragment (names : Url.HostNames) (base target : Url) : Except Url.Fault Url :=
  if !(base.fragment.getD "").isEmpty && (target.fragment.getD "").isEmpty then
    target.withFragment names base.plainFragment
  else
    .ok target

/-- The address that a location means. One that cannot be read is an error of the server; one that
cannot be resolved is not. -/
def target (names : Url.HostNames) (base : Url) (location : String) : Except Fault Url := do
  let parsed ← (Url.parse names location).mapError (.request ∘ badLocation)
  let hosted ← withHost names base parsed
  let absolute ← resolve names base hosted
  (withFragment names base absolute).mapError .url

/-- The headers that go on to another address; a cookie is not taken along. -/
def headers (names : Url.HostNames) (request : Request) (url : Url) : Except Fault Headers := do
  let kept := request.headers.erase "cookie"
  if ← sameOrigin names url request.url then
    return kept
  else if ← isUpgrade names request.url url then
    (kept.setHost url).mapError .header
  else
    ((kept.erase "authorization").setHost url).mapError .header

/-- The request that follows a redirect. -/
@[irreducible] def next (names : Url.HostNames) (cookies : Cookies) (request : Request)
    (location : String) : Except Fault Request := do
  let url ← target names request.url location
  let kept ← headers names request url
  let headers ← kept.withCookies cookies url
  return { request with url := url, headers := headers }

end Redirect

end ImageOwnership.Http
