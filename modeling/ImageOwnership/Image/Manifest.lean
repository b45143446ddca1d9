import ImageOwnership.Document

/-!
Image manifests and lists of them. Of a manifest only the digest of the image config is read, of a
list only the digests of its entries; an absent part and an explicit null mean the same.
-/

namespace ImageOwnership.Image

structure Manifest where
  /-- The digests of the entries when the document is a list. -/
  platforms : List String
  /-- The digest of the image config, empty when there is none. -/
  config : String
deriving DecidableEq, Repr

namespace Manifest

def isIndex (manifest : Manifest) : Bool :=
  !manifest.platforms.isEmpty

/-- The digest in a content descriptor. -/
def digest : Json String → Document.Decoded String
  | .object members => Document.optionalField "digest" "" Document.string members
  | _ => .flawed .notRecord

def platformDigests : Json String → Document.Decoded (List String)
  | .null => .ok []
  | .array items => Document.Decoded.itemsFrom digest 0 items
  | _ => .flawed .notList

def configDigest : Json String → Document.Decoded String
  | .null => .ok ""
  | value => digest value

def ofJson : Json String → Document.Decoded Manifest
  | .object members =>
      (Document.optionalField "manifests" [] platformDigests members).pair
          (Document.optionalField "config" "" configDigest members)
        |>.map fun (platforms, config) => ⟨platforms, config⟩
  | _ => .flawed .notRecord

def read (bytes : List UInt8) : Document.Decoded Manifest :=
  Document.read ofJson bytes

end Manifest

end ImageOwnership.Image
