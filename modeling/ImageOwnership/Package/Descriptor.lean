import ImageOwnership.Document

/-!
Package descriptors of publish requests. The two members about the registry have a second spelling;
the first one counts when both are given, even if its value is wrong.
-/

namespace ImageOwnership.Package

/-- The kinds of package registries. -/
inductive RegistryType where
  | npm
  | pypi
  | oci
  | nuget
  | mcpb
deriving DecidableEq, Repr

namespace RegistryType

def name : RegistryType → String
  | .npm => "npm"
  | .pypi => "pypi"
  | .oci => "oci"
  | .nuget => "nuget"
  | .mcpb => "mcpb"

def all : List RegistryType :=
  [.npm, .pypi, .oci, .nuget, .mcpb]

def ofName? (text : String) : Option RegistryType :=
  all.find? (·.name = text)

def ofJson : Json String → Document.Decoded RegistryType
  | .string text =>
      match ofName? text with
      | some registryType => .ok registryType
      | none => .flawed .unknownName
  | _ => .flawed .unknownName

end RegistryType

structure Descriptor where
  registryType : RegistryType
  /-- The public address of the registry; empty for the default one. -/
  registryBaseUrl : String
  identifier : String
  version : String
deriving DecidableEq, Repr

namespace Descriptor

/-- The value of a member under the first of its names that is given, and that name. -/
def given? (names : List String) (members : List (String × Json String)) :
    Option (String × Json String) :=
  names.findSome? fun name => (Json.lastNamed name members).map ((name, ·))

/-- A member that must be given; when it is not, the fault is at the first of its names. -/
def required {α : Type} (name : String) (otherNames : List String)
    (decode : Json String → Document.Decoded α) (members : List (String × Json String)) :
    Document.Decoded α :=
  match given? (name :: otherNames) members with
  | none => (Document.Decoded.flawed .absent).inside (.field name)
  | some (found, value) => (decode value).inside (.field found)

/-- The registry address, which may be left out. -/
def baseUrl (members : List (String × Json String)) : Document.Decoded String :=
  match given? ["registryBaseUrl", "registry_base_url"] members with
  | none => .ok ""
  | some (found, value) => (Document.string value).inside (.field found)

def ofJson : Json String → Document.Decoded Descriptor
  | .object members =>
      (((required "registryType" ["registry_type"] RegistryType.ofJson members).pair
            (baseUrl members)).pair
          ((required "identifier" [] Document.string members).pair
            (required "version" [] Document.string members)))
        |>.map fun ((registryType, url), identifier, version) =>
          ⟨registryType, url, identifier, version⟩
  | _ => .flawed .notRecord

def read (bytes : List UInt8) : Document.Decoded Descriptor :=
  Document.read ofJson bytes

end Descriptor

end ImageOwnership.Package
