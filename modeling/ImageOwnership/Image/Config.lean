import ImageOwnership.Document

/-!
Image configs, of which only the labels are read. A null label stands for the empty text, and labels
that are null or absent stand for none.
-/

namespace ImageOwnership.Image

/-- Labels by name; no name occurs twice. -/
abbrev Labels := List (String × String)

/-- The labels ordered by name, code point by code point. -/
def Labels.sorted (labels : Labels) : Labels :=
  labels.mergeSort fun first second => first.1 ≤ second.1

structure Config where
  /-- The labels, when the document gives them. -/
  labels? : Option Labels
deriving DecidableEq, Repr

namespace Config

def labels (config : Config) : Labels :=
  config.labels?.getD []

def label : Json String → Document.Decoded String
  | .null => .ok ""
  | value => Document.string value

def labelMap : Json String → Document.Decoded (Option Labels)
  | .null => .ok none
  | .object members => (Document.Decoded.entries label (Json.uniqueMembers members)).map some
  | _ => .flawed .notMap

def container : Json String → Document.Decoded (Option Labels)
  | .null => .ok none
  | .object members => Document.optionalField "Labels" none labelMap members
  | _ => .flawed .notRecord

def ofJson : Json String → Document.Decoded Config
  | .object members => (Document.optionalField "config" none container members).map .mk
  | _ => .flawed .notRecord

def read (bytes : List UInt8) : Document.Decoded Config :=
  Document.read ofJson bytes

end Config

end ImageOwnership.Image
