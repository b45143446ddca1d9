import ImageOwnership.Json.Parsing

/-!
Documents read from JSON values. What is wrong with a document is told as a list of faults, each with
the place where it lies; the faults of the parts of a document follow each other in the order of the
parts.
-/

namespace ImageOwnership.Document

/-- A step on the way to a place in a document. -/
inductive Step where
  | field (name : String)
  | item (position : Nat)
deriving DecidableEq, Repr

/-- What is wrong at a place. -/
inductive Flaw where
  | notJson
  | absent
  | notString
  | unknownName
  | notRecord
  | notList
  | notMap
deriving DecidableEq, Repr

structure Fault where
  location : List Step
  flaw : Flaw
deriving DecidableEq, Repr

def Fault.inside (step : Step) (fault : Fault) : Fault :=
  { fault with location := step :: fault.location }

def Step.text : Step → String
  | .field name => name
  | .item position => toString position

def Flaw.text : Flaw → String
  | .notJson => "not a JSON document"
  | .absent => "missing"
  | .notString => "not a string"
  | .unknownName => "not a known name"
  | .notRecord => "not an object"
  | .notList => "not a list"
  | .notMap => "not an object"

/-- The place, steps divided by dots, and what is wrong there. -/
def Fault.text (fault : Fault) : String :=
  let place := ".".intercalate (fault.location.map Step.text)
  (if place.isEmpty then "" else place ++ ": ") ++ fault.flaw.text

/-- A part of a document, or the faults in it. -/
abbrev Decoded (α : Type) :=
  Except (List Fault) α

namespace Decoded

variable {α β : Type}

/-- A single fault at the place itself. -/
def flawed (flaw : Flaw) : Decoded α :=
  .error [⟨[], flaw⟩]

/-- The part seen from the document around it. -/
def inside (step : Step) (decoded : Decoded α) : Decoded α :=
  decoded.mapError (List.map (Fault.inside step))

/-- Two parts side by side. -/
def pair : Decoded α → Decoded β → Decoded (α × β)
  | .ok first, .ok second => .ok (first, second)
  | .ok _, .error faults => .error faults
  | .error faults, .ok _ => .error faults
  | .error faults, .error more => .error (faults ++ more)

/-- The items of a list, each decoded at its position. -/
def itemsFrom (decode : Json String → Decoded α) :
    Nat → List (Json String) → Decoded (List α)
  | _, [] => .ok []
  | position, item :: rest =>
      ((decode item).inside (.item position)).pair (itemsFrom decode (position + 1) rest)
        |>.map fun (first, others) => first :: others

/-- The members of a map, each decoded under its name. -/
def entries (decode : Json String → Decoded α) :
    List (String × Json String) → Decoded (List (String × α))
  | [] => .ok []
  | (name, value) :: rest =>
      ((decode value).inside (.field name)).pair (entries decode rest)
        |>.map fun (first, others) => (name, first) :: others

end Decoded

/-- A string. -/
def string : Json String → Decoded String
  | .string text => .ok text
  | _ => .flawed .notString

/-- A member that may be left out. -/
def optionalField {α : Type} (name : String) (default : α) (decode : Json String → Decoded α)
    (members : List (String × Json String)) : Decoded α :=
  match Json.lastNamed name members with
  | none => .ok default
  | some value => (decode value).inside (.field name)

/-- The bytes of a document as JSON, and what is read from it. -/
def read {α : Type} (decode : Json String → Decoded α) (bytes : List UInt8) : Decoded α :=
  match Json.decode? bytes with
  | none => .flawed .notJson
  | some value => decode value

end ImageOwnership.Document
