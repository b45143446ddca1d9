import ImageOwnership.Http.Redirect
import ImageOwnership.Http.Run
import ImageOwnership.Url.Form

/-!
The client: from a call to the request that it means, and from the request through its redirects to
the reply.

A client is told by its headers. It has no base address, no parameters and no authorization of its own;
which way a request takes to its server is left to the transport, and so is whether a scheme is served.
The body of a response is what is left of it once it is unpacked, so that a body which cannot be unpacked
is an error of the transport.
-/

namespace ImageOwnership.Http

/-- A client with the headers that it adds to each request. -/
structure Client where
  headers : Headers
deriving DecidableEq, Repr

namespace Client

/-- A client of a user agent, which has to be ASCII. -/
def ofUserAgent (userAgent : String) : Except NotAscii Client := do
  let written ← Headers.write [("User-Agent", CodePoint.ofString userAgent)]
  return ⟨("accept", "*/*") :: written⟩

end Client

/-- What a client is asked for. Parameters replace the query of the address. -/
structure Call where
  url : String
  parameters : Option (List (String × String))
  headers : List (String × List CodePoint)
  timeout : Timeout
deriving DecidableEq, Repr

namespace Call

def encodedParameters (parameters : List (String × String)) : String :=
  String.ofList (Form.encode (parameters.map fun (name, value) => (name.toList, value.toList)))

/-- The address of a call; one that is not absolute lies below an empty base. -/
def baseUrl (names : Url.HostNames) (call : Call) : Except Url.Fault Url := do
  let url ← Url.parse names call.url
  if url.isAbsolute then return url else url.belowRoot names

def targetUrl (names : Url.HostNames) (call : Call) (base : Url) : Except Url.Fault Url :=
  match call.parameters with
  | none => .ok base
  | some parameters => base.withQuery names (encodedParameters parameters)

/-- The address that a call is sent to, and the headers that are given for it. -/
def draft (names : Url.HostNames) (call : Call) (client : Client) : Except Fault (Url × Headers) := do
  let base ← (call.baseUrl names).mapError .url
  let given ← (Headers.write call.headers).mapError .header
  let url ← (call.targetUrl names base).mapError .url
  return (url, client.headers.update given)

/-- The headers with a host, unless one is given or the address has none. -/
def withHost (names : Url.HostNames) (headers : Headers) (url : Url) : Except Fault Headers :=
  if (headers.get? "host").isSome then
    .ok headers
  else do
    let host ← (url.hostName names).mapError .host
    if host.isEmpty then return headers else (headers.setHost url).mapError .header

/-- The request that a call means to a client. -/
def request (names : Url.HostNames) (cookies : Cookies) (call : Call) (client : Client) :
    Except Fault Request := do
  let (url, given) ← call.draft names client
  let said ← given.withCookies cookies url
  let headers ← withHost names said url
  return ⟨url, headers, call.timeout⟩

end Call

/-- A user name or a password in the address takes the place of any other authorization. -/
def Request.withCredentials (request : Request) : Request :=
  let credentials := request.url.credentials
  if credentials.1.isEmpty && credentials.2.isEmpty then request
  else { request with headers := request.headers.set "authorization" (basicCredentials credentials) }

namespace Transport

variable {World : Type}

/-- The request that a redirect leads to, with the cookies that are kept when it is met. -/
def next (transport : Transport World) (world : World) (request : Request)
    (location : String) : Except Fault Request :=
  Redirect.next transport.names (transport.cookies world) request location

/-- The request that a call means, with the cookies that are kept when it is made. -/
def request (transport : Transport World) (world : World) (call : Call) (client : Client) :
    Except Fault Request :=
  call.request transport.names (transport.cookies world) client

end Transport

namespace Client

variable {World Note : Type}

/-- Sends one request. The host is looked at once the response is there, because that is when it has to
be known from whom the response comes. -/
def send (transport : Transport World) (request : Request) : Action World Note Fault Response := do
  match ← Action.respond transport request with
  | .ok response =>
      Action.ofExcept (request.url.checkHost.mapError .host)
      return response
  | .error error => throw (.request error)

/-- Sends a request and follows the redirects it meets, a number of them at most. -/
def follow (transport : Transport World) : Nat → Request → Action World Note Fault Reply
  | left, request => do
      let response ← send transport request
      match response.redirect? with
      | none => return ⟨request.url, response⟩
      | some location =>
          let next ← Action.ofExcept (transport.next (← get).world request location)
          match left with
          | 0 => throw (.request Redirect.tooMany)
          | left + 1 => follow transport left next

/-- Calls the client. -/
def get (transport : Transport World) (client : Client) (call : Call) :
    Action World Note Fault Reply := do
  Action.record (.called call.url)
  let run ← MonadState.get
  let request ← Action.ofExcept (transport.request run.world call client)
  if run.isOpen then
    follow transport Redirect.limit request.withCredentials
  else
    throw .clientClosed

end Client

end ImageOwnership.Http
