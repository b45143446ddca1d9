import ImageOwnership.Decimal.Binary64

/-!
JSON values. The texts in a value are of any type: strings where a document must be plain text, lists
of code points where a lone half of a surrogate pair may occur. An object keeps its members in the
order of the document, with every repetition; of members with one name the last one counts.
-/

namespace ImageOwnership

inductive Json (Text : Type) where
  | null
  | boolean (value : Bool)
  | integer (value : Int)
  | real (value : Binary64)
  | string (text : Text)
  | array (items : List (Json Text))
  | object (members : List (Text × Json Text))

namespace Json

/-- The value of the last member with a name. -/
def lastNamed {Text Value : Type} [DecidableEq Text] (name : Text) :
    List (Text × Value) → Option Value
  | [] => none
  | (key, value) :: rest =>
      match lastNamed name rest with
      | some later => some later
      | none => if key = name then some value else none

/-- A member is put in the place of one with its name, or else at the end. -/
def putMember {Text Value : Type} [DecidableEq Text] (name : Text) (value : Value) :
    List (Text × Value) → List (Text × Value)
  | [] => [(name, value)]
  | (key, old) :: rest =>
      if key = name then (key, value) :: rest else (key, old) :: putMember name value rest

/-- The members that count: each name once, in its first place and with its last value. -/
def uniqueMembers {Text Value : Type} [DecidableEq Text] (members : List (Text × Value)) :
    List (Text × Value) :=
  members.foldl (fun merged member => putMember member.1 member.2 merged) []

mutual

/-- The value with its texts converted, if each of them can be. -/
def mapText? {Source Target : Type} (convert? : Source → Option Target) :
    Json Source → Option (Json Target)
  | .null => some .null
  | .boolean value => some (.boolean value)
  | .integer value => some (.integer value)
  | .real value => some (.real value)
  | .string text => (convert? text).map .string
  | .array items => (mapItems? convert? items).map .array
  | .object members => (mapMembers? convert? members).map .object

def mapItems? {Source Target : Type} (convert? : Source → Option Target) :
    List (Json Source) → Option (List (Json Target))
  | [] => some []
  | item :: rest => do
      let mapped ← mapText? convert? item
      let others ← mapItems? convert? rest
      some (mapped :: others)

def mapMembers? {Source Target : Type} (convert? : Source → Option Target) :
    List (Source × Json Source) → Option (List (Target × Json Target))
  | [] => some []
  | (name, value) :: rest => do
      let key ← convert? name
      let mapped ← mapText? convert? value
      let others ← mapMembers? convert? rest
      some ((key, mapped) :: others)

end

theorem lastNamed_append {Text Value : Type} [DecidableEq Text] (name : Text)
    (front back : List (Text × Value)) :
    lastNamed name (front ++ back) = (lastNamed name back).or (lastNamed name front) := by
  induction front with
  | nil => simp [lastNamed]
  | cons member rest induction =>
      obtain ⟨key, value⟩ := member
      simp only [List.cons_append, lastNamed, induction]
      cases lastNamed name back <;> rfl

end Json

end ImageOwnership
