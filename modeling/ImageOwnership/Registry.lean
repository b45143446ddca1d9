import ImageOwnership.Image.Config
import ImageOwnership.Image.Manifest
import ImageOwnership.Json.Display
import ImageOwnership.Json.Encoding
import ImageOwnership.Log

/-!
What is asked of a registry: a token where its service hands them out, the manifest of a tag and of a
platform, and the config of an image. Each request gets a token of its own.
-/

namespace ImageOwnership

/-- How the requests to a registry are authorized. -/
inductive Authorization where
  | anonymous
  /-- By a token of the service at an address. -/
  | token (url : String)
deriving DecidableEq, Repr

/-- Only one origin asks for tokens. -/
def Authorization.forOrigin (origin : String) (settings : Settings) : Authorization :=
  if origin = Provider.dockerOrigin then .token settings.tokenUrl else .anonymous

namespace Token

/-- The token of an answer: what is absent or empty is the empty text, and a value that is no string
is written as text. -/
def text : Option Json.Read → List CodePoint
  | none => []
  | some value => if value.isEmpty then [] else value.display

/-- The token in the body of an answer. -/
def read (body : List UInt8) : Except Failure (List CodePoint) :=
  match Json.load body with
  | .error .undecodable => .error (.token .undecodable)
  | .error (.unreadable .malformed) => .error (.token .malformed)
  | .error (.unreadable (.longNumber digits)) => .error (.token (.longInteger digits))
  | .error (.unreadable (.tooDeep container)) => .error (.deepToken container)
  | .ok (.object members) => .ok (text (Json.lastNamed (CodePoint.ofString "token") members))
  | .ok _ => .error (.token .notObject)

def scope (repository : Image.Repository) : String :=
  "repository:" ++ repository.path ++ ":pull"

def parameters (repository : Image.Repository) : List (String × String) :=
  [("service", "registry.docker.io"), ("scope", scope repository)]

end Token

/-- A registry that can be asked. -/
structure Registry where
  /-- The origin without slashes at its end. -/
  origin : String
  settings : Settings
  authorization : Authorization
  client : Http.Client
  /-- Whether the client was made for this registry, which then closes it. -/
  ownsClient : Bool
deriving DecidableEq, Repr

namespace Registry

/-- A step of a validation. -/
abbrev Action (World : Type) :=
  Http.Action World Log.Entry Failure

/-- What is accepted for the manifest of a tag and for an image config. -/
def imageTypes : List String :=
  ["application/vnd.docker.distribution.manifest.v2+json",
    "application/vnd.oci.image.manifest.v1+json"]

def tagAccept : String := ",".intercalate imageTypes

def platformAccept : String := "application/vnd.oci.image.manifest.v1+json"

def configAccept : String := "application/vnd.docker.distribution.manifest.v2+json"

def withoutLastSlashes (text : String) : String :=
  String.ofList (text.toList.reverse.dropWhile (· = '/')).reverse

/-- A registry at an origin. -/
def atOrigin (origin : String) (settings : Settings) (authorization : Authorization)
    (client : Http.Client) (ownsClient : Bool) : Registry :=
  ⟨withoutLastSlashes origin, settings, authorization, client, ownsClient⟩

def repositoryUrl (registry : Registry) (repository : Image.Repository) : String :=
  registry.origin ++ "/v2/" ++ repository.path

def manifestUrl (registry : Registry) (repository : Image.Repository) (name : String) : String :=
  registry.repositoryUrl repository ++ "/manifests/" ++ name

def configUrl (registry : Registry) (repository : Image.Repository) (digest : String) : String :=
  registry.repositoryUrl repository ++ "/blobs/" ++ digest

variable {World : Type} (transport : Http.Transport World) (registry : Registry)

/-- A call with the retries that the settings allow; the reason why it gave no reply is left to the
caller. -/
def call (url : String) (parameters : Option (List (String × String)))
    (headers : List (String × List CodePoint)) :
    Action World (Except Http.Stop Http.Reply) :=
  Http.Action.outcome <|
    Http.Retry.get transport registry.client registry.settings
      ⟨url, parameters, headers, registry.settings.timeout⟩

/-- A new token for a repository. -/
def requestToken (url : String) (repository : Image.Repository) :
    Action World (List CodePoint) := do
  Http.Action.note (.requestingToken (Token.scope repository))
  match ← registry.call transport url (some (Token.parameters repository)) [] with
  | .error (.fault (.request error)) => throw (.token (.request error))
  | .error stop => throw (.stopped stop)
  | .ok reply =>
      if reply.status = 200 then
        Http.Action.ofExcept (Token.read reply.body)
      else
        throw (.token (.status reply.status))

/-- The token for a request, where one is needed. -/
def authorize (repository : Image.Repository) : Action World (Option (List CodePoint)) :=
  match registry.authorization with
  | .anonymous => return none
  | .token url => do
      let token ← registry.requestToken transport url repository
      return some token

def requestHeaders (accept : String) (token : Option (List CodePoint)) :
    List (String × List CodePoint) :=
  [("Accept", CodePoint.ofString accept),
    ("User-Agent", CodePoint.ofString registry.settings.userAgent)] ++
    match token with
    | none => []
    | some token => [("Authorization", CodePoint.ofString "Bearer " ++ token)]

/-- A document of a repository. What it means for the stage that the document cannot be had is told by
`failure`. -/
def fetch {α : Type} (decode : List UInt8 → Document.Decoded α) (failure : FetchFault → Failure)
    (accept : String) (repository : Image.Repository) (url : String) : Action World α := do
  let token ← registry.authorize transport repository
  match ← registry.call transport url none (registry.requestHeaders accept token) with
  | .error (.fault (.request error)) => throw (failure (.request error))
  | .error stop => throw (.stopped stop)
  | .ok reply =>
      if reply.status = 200 then
        Http.Action.ofExcept ((decode reply.body).mapError (failure ∘ .malformed))
      else
        throw (failure (.status reply.status))

/-- What it means that the manifest of a tag cannot be had. -/
def tagFailure (image : Image.Reference) : FetchFault → Failure
  | .status 404 => .imageNotFound image 404
  | .status 401 => .imageNotFound image 401
  | .status 429 => .rateLimited image
  | fault => .manifest fault

/-- The manifest of an image: the one of its tag, or the first one when the tag names a list. -/
def manifest (image : Image.Reference) : Action World Image.Manifest := do
  let repository := image.repository
  let url := registry.manifestUrl repository image.tag
  Http.Action.note (.fetchingManifest url)
  let tagged ←
    registry.fetch transport Image.Manifest.read (tagFailure image) tagAccept repository url
  match tagged.platforms with
  | [] => return tagged
  | digest :: _ =>
      Http.Action.note (.choosingPlatform image digest)
      registry.fetch transport Image.Manifest.read .platformManifest platformAccept repository
        (registry.manifestUrl repository digest)

/-- The digest of the config of an image. -/
def configDigest (image : Image.Reference) : Action World String := do
  let manifest ← registry.manifest transport image
  if manifest.config.isEmpty then
    throw (.noConfigDigest image)
  Http.Action.note (.foundConfig image manifest.config)
  return manifest.config

/-- The labels in the config with a digest. -/
def labels (image : Image.Reference) (digest : String) : Action World Image.Labels := do
  let url := registry.configUrl image.repository digest
  Http.Action.note (.fetchingConfig url)
  let config ←
    registry.fetch transport Image.Config.read .config configAccept image.repository url
  return config.labels

/-- Closes the client if it was made for this registry and is still open. -/
def close : Action World Unit := do
  if registry.ownsClient && (← get).isOpen then
    Http.Action.record .closed
    modify fun run => { run with world := transport.close run.world, isOpen := false }

end Registry

end ImageOwnership
