import ImageOwnership.Registry

/-!
Whether an image belongs to the server that claims it. The address is resolved and the identifier
split before anything is asked for; then the labels of the image are fetched, the client is closed,
and the owner label decides. A registry that limits the rate of requests may count as a pass.
-/

namespace ImageOwnership

/-- The label of the image has to be there and to be the claimed owner, character for character. -/
def verifyLabels (labels : Image.Labels) (owner : String) (image : Image.Reference) :
    Except Failure Unit :=
  match labels.lookup ownerLabel with
  | none => .error (.labelMissing image owner)
  | some actual => if actual = owner then .ok () else .error (.labelMismatch owner actual)

/-- What a validation is about, and what it may use. -/
structure Claim where
  descriptor : Package.Descriptor
  /-- The server name that claims the package. -/
  owner : String
  /-- The settings, when they are not to be read from the environment. -/
  settings : Option Settings := none
  providers : Provider.Table := Provider.publicTable
  /-- The client of the caller, when none is to be made. -/
  client : Option Http.Client := none

namespace Claim

open Http (Action)

/-- What is settled before anything is asked for. -/
structure Target where
  settings : Settings
  origin : String
  image : Image.Reference
deriving DecidableEq, Repr

def settingsIn (claim : Claim) (environment : Settings.Environment) : Except Failure Settings :=
  match claim.settings with
  | some settings => .ok settings
  | none => (Settings.ofEnvironment environment).mapError .settings

def origin (claim : Claim) : Except Failure String :=
  (claim.providers.resolve claim.descriptor.registryBaseUrl).mapError .baseUrl

def repository (claim : Claim) : Except Failure Image.Repository :=
  match Image.Repository.ofIdentifier? claim.descriptor.identifier with
  | some repository => .ok repository
  | none => .error (.identifier claim.descriptor.identifier)

def target (claim : Claim) (environment : Settings.Environment) : Except Failure Target := do
  let settings ← claim.settingsIn environment
  let origin ← claim.origin
  let repository ← claim.repository
  return ⟨settings, origin, ⟨repository, claim.descriptor.version⟩⟩

variable {World : Type} (transport : Http.Transport World)

/-- The registry at the origin, with the client of the caller or one that is made. -/
def registry (claim : Claim) (target : Target) : Registry.Action World Registry := do
  let authorization := Authorization.forOrigin target.origin target.settings
  match claim.client with
  | some client =>
      return .atOrigin target.origin target.settings authorization client false
  | none =>
      let client ← Action.ofExcept
        ((Http.Client.ofUserAgent target.settings.userAgent).mapError .userAgent)
      Action.record .opened
      return .atOrigin target.origin target.settings authorization client true

/-- The labels of the image; the client is closed whether or not they could be had. -/
def fetchLabels (registry : Registry) (image : Image.Reference) :
    Registry.Action World Image.Labels := do
  let fetched ← Action.outcome do
    let digest ← registry.configDigest transport image
    registry.labels transport image digest
  registry.close transport
  Action.ofExcept fetched

/-- The verdict on the image. -/
def judge (claim : Claim) (target : Target) : Registry.Action World Unit := do
  let registry ← claim.registry target
  let labels ← fetchLabels transport registry target.image
  if ← Action.isCancelled transport then
    throw (.cancelled target.image)
  Action.ofExcept (verifyLabels labels claim.owner target.image)

/-- What a failure of the verdict means under the settings. -/
def conclude (target : Target) : Failure → Registry.Action World Unit
  | .rateLimited image =>
      if target.settings.skipsRateLimit then
        Action.note (.skipped target.image)
      else
        throw (.rateLimited image)
  | failure => do
      if failure.isClassified then
        Action.note (.failed target.image failure)
      throw failure

/-- Validates an image. -/
def validateImage (claim : Claim) (environment : Settings.Environment) :
    Registry.Action World Unit := do
  let target ← Action.ofExcept (claim.target environment)
  Action.note (.validating target.image target.origin claim.owner)
  match ← Action.outcome (claim.judge transport target) with
  | .ok () => Action.note (.validated target.image claim.owner)
  | .error failure => conclude target failure

/-- Validates a package; only images can be validated. -/
def validate (claim : Claim) (environment : Settings.Environment) : Registry.Action World Unit :=
  match claim.descriptor.registryType with
  | .oci => claim.validateImage transport environment
  | other => throw (.registryType other)

end Claim

end ImageOwnership
