import ImageOwnership.Failure

/-!
What a validation notes along its way: each entry has a level, a source and a wording.
-/

namespace ImageOwnership.Log

inductive Level where
  | debug
  | info
  | warning
  | error
deriving DecidableEq, Repr

namespace Level

def name : Level → String
  | .debug => "DEBUG"
  | .info => "INFO"
  | .warning => "WARNING"
  | .error => "ERROR"

/-- How serious a level is. -/
def rank : Level → Nat
  | .debug => 10
  | .info => 20
  | .warning => 30
  | .error => 40

end Level

inductive Entry where
  | validating (image : Image.Reference) (origin owner : String)
  | requestingToken (scope : String)
  | fetchingManifest (url : String)
  | choosingPlatform (image : Image.Reference) (digest : String)
  | foundConfig (image : Image.Reference) (digest : String)
  | fetchingConfig (url : String)
  | skipped (image : Image.Reference)
  | failed (image : Image.Reference) (failure : Failure)
  | validated (image : Image.Reference) (owner : String)
deriving DecidableEq, Repr

namespace Entry

def level : Entry → Level
  | .skipped _ => .warning
  | .failed _ _ => .error
  | .validated _ _ => .info
  | _ => .debug

/-- The part of the program that an entry comes from. -/
def source : Entry → String
  | .requestingToken _ => "registries.auth"
  | .fetchingManifest _ => "registries.registry_http"
  | .choosingPlatform _ _ => "registries.registry_http"
  | .foundConfig _ _ => "registries.registry_http"
  | .fetchingConfig _ => "registries.registry_http"
  | _ => "registries.oci"

/-- The wording, given the wording of failures. -/
def messageWith (failureMessage : Failure → String) : Entry → String
  | .validating image origin owner =>
      "Validating ownership of " ++ image.text ++ " via " ++ origin ++ " for " ++ owner
  | .requestingToken scope => "Requesting Docker Hub token for " ++ scope
  | .fetchingManifest url => "Fetching manifest " ++ url
  | .choosingPlatform image digest =>
      "Manifest list for " ++ image.text ++ ", using first platform manifest " ++ digest
  | .foundConfig image digest => "Resolved " ++ image.text ++ " to config " ++ digest
  | .fetchingConfig url => "Fetching image config " ++ url
  | .skipped image =>
      "Rate limited when accessing OCI image '" ++ image.text ++ "'. Skipping validation."
  | .failed image failure =>
      "OCI ownership validation failed for " ++ image.text ++ ": " ++ failureMessage failure
  | .validated image owner => "Validated ownership of " ++ image.text ++ " for " ++ owner

end Entry

end ImageOwnership.Log
