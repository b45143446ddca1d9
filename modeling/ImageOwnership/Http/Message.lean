import ImageOwnership.Http.Header
import ImageOwnership.Settings
import ImageOwnership.Url.Resolution

/-!
Requests, the responses to them, and the ways in which a request can fail. All requests read with the
method GET.
-/

namespace ImageOwnership.Http

/-- The headers with the host of an address, which is sent as ASCII text. -/
def Headers.setHost (headers : Headers) (url : Url) : Except NotAscii Headers := do
  let host ← ascii (CodePoint.ofString url.hostAndPort)
  return headers.set "host" host

structure Request where
  url : Url
  headers : Headers
  timeout : Timeout
deriving DecidableEq, Repr

/-- A response, as far as anything reads it. The cookies that it sets are kept by the transport. -/
structure Response where
  status : Nat
  /-- The address that the response points to, if it names one. -/
  location : Option String
  body : List UInt8
deriving DecidableEq, Repr

/-- A response with the address that delivered it. -/
structure Reply where
  url : Url
  response : Response
deriving DecidableEq, Repr

def Reply.status (reply : Reply) : Nat :=
  reply.response.status

def Reply.body (reply : Reply) : List UInt8 :=
  reply.response.body

/-- How a request failed without a response. -/
inductive RequestError.Kind where
  | connectTimeout
  | readTimeout
  | writeTimeout
  | poolTimeout
  | connectError
  | readError
  | writeError
  | closeError
  | unsupportedProtocol
  | localProtocolError
  | remoteProtocolError
  | proxyError
  | decodingError
  | tooManyRedirects
  /-- A timeout of no particular kind. -/
  | anyTimeout
  /-- A failure of the network of no particular kind. -/
  | network
  /-- A breach of the protocol of no particular kind. -/
  | protocol
  /-- A failure below the client of no particular kind. -/
  | transport
  | unspecified
deriving DecidableEq, Repr

def RequestError.Kind.isTimeout : RequestError.Kind → Bool
  | .connectTimeout | .readTimeout | .writeTimeout | .poolTimeout | .anyTimeout => true
  | _ => false

structure RequestError where
  kind : RequestError.Kind
  message : String
deriving DecidableEq, Repr

/-- Why a call of the client gave no response. -/
inductive Fault where
  | request (error : RequestError)
  | url (fault : Url.Fault)
  /-- The host of a request or of a location cannot be told where it has to be known. -/
  | host (fault : Url.Host.Fault)
  | header (fault : NotAscii)
  | clientClosed
deriving DecidableEq, Repr

def Fault.message : Fault → String
  | .request error => error.message
  | .url fault => fault.message
  | .host fault => fault.message
  | .header fault => fault.message
  | .clientClosed => "Cannot send a request, as the client has been closed."

end ImageOwnership.Http
