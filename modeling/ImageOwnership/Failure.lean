import ImageOwnership.Document
import ImageOwnership.Http.Retry
import ImageOwnership.Image.Reference
import ImageOwnership.Package.Descriptor
import ImageOwnership.Provider

/-!
The failures of a validation, one constructor for each cause, with their wording. What a reader of
documents has to say about a malformed one is a detail that the wording leaves room for.
-/

namespace ImageOwnership

/-- Why a document of a registry could not be had. -/
inductive FetchFault where
  | request (error : Http.RequestError)
  /-- The status is not the one of success. -/
  | status (code : Nat)
  | malformed (faults : List Document.Fault)
deriving DecidableEq, Repr

/-- Why a token could not be had. -/
inductive TokenFault where
  | request (error : Http.RequestError)
  | status (code : Nat)
  | undecodable
  | malformed
  | longInteger (digits : Nat)
  | notObject
deriving DecidableEq, Repr

/-- Why a file could not be read as text. -/
inductive FileFault where
  | missing (path : String)
  | directory (path : String)
  /-- A part of the path before the last one is no directory. -/
  | throughFile (path : String)
  | longName (path : String)
  | notText (fault : Utf8.Fault)
  | unreadable (reason : String)
deriving DecidableEq, Repr

def FileFault.message : FileFault → String
  | .missing path => "[Errno 2] No such file or directory: " ++ Quoted.quoteString path
  | .directory path => "[Errno 21] Is a directory: " ++ Quoted.quoteString path
  | .throughFile path => "[Errno 20] Not a directory: " ++ Quoted.quoteString path
  | .longName path => "[Errno 36] File name too long: " ++ Quoted.quoteString path
  | .notText fault => fault.message
  | .unreadable reason => reason

inductive Failure where
  | file (fault : FileFault)
  | descriptor (faults : List Document.Fault)
  | settings (fault : Settings.Fault)
  | registryType (registryType : Package.RegistryType)
  | baseUrl (unsupported : Provider.Unsupported)
  | identifier (text : String)
  /-- No client can be made for the user agent. -/
  | userAgent (fault : Http.NotAscii)
  /-- A call ended without a reply, and no stage gives the reason a meaning of its own. -/
  | stopped (stop : Http.Stop)
  | token (fault : TokenFault)
  /-- The answer of the token service has too many containers inside each other. -/
  | deepToken (container : Json.Container)
  | imageNotFound (image : Image.Reference) (status : Nat)
  | rateLimited (image : Image.Reference)
  | manifest (fault : FetchFault)
  | platformManifest (fault : FetchFault)
  | noConfigDigest (image : Image.Reference)
  | config (fault : FetchFault)
  | labelMissing (image : Image.Reference) (owner : String)
  | labelMismatch (owner actual : String)
  /-- The caller cancelled before the verdict. -/
  | cancelled (image : Image.Reference)
deriving DecidableEq, Repr

/-- The label that names the owner of an image. -/
def ownerLabel : String := "io.modelcontextprotocol.server.name"

namespace FetchFault

/-- The wording, with what is said of a status that is not the one of success. -/
def message (detail document refused : String) : FetchFault → String
  | .request error => "failed to fetch " ++ document ++ ": " ++ error.message
  | .status code => refused ++ " (status: " ++ toString code ++ ")"
  | .malformed _ => "failed to parse " ++ document ++ ": " ++ detail

def status? : FetchFault → Option Nat
  | .status code => some code
  | _ => none

end FetchFault

namespace TokenFault

def message (detail : String) : TokenFault → String
  | .request error => "failed to request auth token: " ++ error.message
  | .status code => "auth request failed with status " ++ toString code
  | .notObject => "failed to parse auth response: expected a JSON object"
  | _ => "failed to parse auth response: " ++ detail

def status? : TokenFault → Option Nat
  | .status code => some code
  | _ => none

end TokenFault

namespace Failure

/-- The wording, with the detail that is said about a malformed document. -/
def messageWith (detail : String) : Failure → String
  | .file fault => fault.message
  | .descriptor _ => detail
  | .settings fault => fault.message
  | .registryType given => "unsupported registry type: '" ++ given.name ++ "'"
  | .baseUrl unsupported => unsupported.message
  | .identifier text => "invalid OCI image reference: invalid image reference: " ++ text
  | .userAgent fault => fault.message
  | .stopped stop => stop.message
  | .token fault => "failed to authenticate with Docker registry: " ++ fault.message detail
  | .deepToken container =>
      "maximum recursion depth exceeded while decoding a JSON " ++
        (match container with
          | .array => "array"
          | .object => "object") ++ " from a unicode string"
  | .imageNotFound image status =>
      "OCI image '" ++ image.text ++ "' not found (status: " ++ toString status ++ ")"
  | .rateLimited image => "rate limited when accessing OCI image '" ++ image.text ++ "'"
  | .manifest fault =>
      fault.message detail "OCI manifest" "failed to fetch OCI manifest"
  | .platformManifest fault =>
      "failed to get specific manifest: " ++
        fault.message detail "specific manifest" "specific manifest not found"
  | .noConfigDigest image =>
      "unable to determine image config digest for '" ++ image.text ++ "'"
  | .config fault =>
      "failed to get image config: " ++
        fault.message detail "image config" "image config not found"
  | .labelMissing image owner =>
      "OCI image '" ++ image.text ++
        "' is missing required annotation. Add this to your Dockerfile: LABEL " ++ ownerLabel ++
        "=\"" ++ owner ++ "\""
  | .labelMismatch owner actual =>
      "OCI image ownership validation failed. Expected annotation '" ++ ownerLabel ++ "' = '" ++
        owner ++ "', got '" ++ actual ++ "'"
  | .cancelled image => "validation of " ++ image.text ++ " cancelled"

/-- The faults of the document that failed to decode, if one did. -/
def documentFaults? : Failure → Option (List Document.Fault)
  | .descriptor faults => some faults
  | .manifest (.malformed faults) => some faults
  | .platformManifest (.malformed faults) => some faults
  | .config (.malformed faults) => some faults
  | _ => none

/-- What there is to say about a malformed document. -/
def detail (failure : Failure) : String :=
  match failure.documentFaults? with
  | some faults => "; ".intercalate (faults.map Document.Fault.text)
  | none =>
      match failure with
      | .token .undecodable => "the text is in no known encoding"
      | .token (.longInteger digits) => (Reading.Fault.tooManyDigits digits).message
      | _ => "the text is not JSON"

def message (failure : Failure) : String :=
  failure.messageWith failure.detail

/-- The status that a registry or the token service answered with, where it is the reason. -/
def status? : Failure → Option Nat
  | .token fault => fault.status?
  | .imageNotFound _ status => some status
  | .rateLimited _ => some 429
  | .manifest fault => fault.status?
  | .platformManifest fault => fault.status?
  | .config fault => fault.status?
  | _ => none

/-- The error of a request that a failure goes back to, where a stage gave it a meaning. -/
def requestError? : Failure → Option Http.RequestError
  | .token (.request error) => some error
  | .manifest (.request error) => some error
  | .platformManifest (.request error) => some error
  | .config (.request error) => some error
  | _ => none

/-- Whether the failure is one that a validation tells of, and not one that passes through it from a
text, a file or the client. -/
def isClassified : Failure → Bool
  | .file _ => false
  | .descriptor _ => false
  | .settings _ => false
  | .userAgent _ => false
  | .stopped (.fault _) => false
  | .deepToken _ => false
  | _ => true

/-- Failures grouped by what a caller may do about them. -/
inductive Kind where
  | document
  | value
  | registryType
  | baseUrl
  | identifier
  | token
  | imageNotFound
  | rateLimited
  | manifestFetch
  | manifestDocument
  | configDigest
  | configFetch
  | configDocument
  | labelMissing
  | labelMismatch
  | cancelled
  /-- A failure that no group is made for. -/
  | other
deriving DecidableEq, Repr

/-- A host that cannot be told is a bad value, unless it is a form without a name. -/
def hostKind : Url.Host.Fault → Kind
  | .unreadableName _ => .other
  | _ => .value

def kind : Failure → Kind
  | .file _ => .other
  | .descriptor _ => .document
  | .settings _ => .value
  | .registryType _ => .registryType
  | .baseUrl _ => .baseUrl
  | .identifier _ => .identifier
  | .userAgent _ => .other
  | .stopped (.fault (.host fault)) => hostKind fault
  | .stopped (.fault _) => .other
  | .stopped (.cancelled _ _) => .cancelled
  | .token _ => .token
  | .deepToken _ => .other
  | .imageNotFound _ _ => .imageNotFound
  | .rateLimited _ => .rateLimited
  | .manifest (.malformed _) => .manifestDocument
  | .manifest _ => .manifestFetch
  | .platformManifest (.malformed _) => .manifestDocument
  | .platformManifest _ => .manifestFetch
  | .noConfigDigest _ => .configDigest
  | .config (.malformed _) => .configDocument
  | .config _ => .configFetch
  | .labelMissing _ _ => .labelMissing
  | .labelMismatch _ _ => .labelMismatch
  | .cancelled _ => .cancelled

end Failure

end ImageOwnership
