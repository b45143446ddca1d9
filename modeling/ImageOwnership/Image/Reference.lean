/-!
Names of images. An identifier has at most one slash; without one it names a repository of the
default namespace. The path of a repository reads back as the same repository.
-/

namespace ImageOwnership.Image

/-- A repository of a registry: its namespace and its name there. -/
structure Repository where
  space : String
  name : String
deriving DecidableEq, Repr

namespace Repository

def defaultSpace : String := "library"

def path (repository : Repository) : String :=
  repository.space ++ "/" ++ repository.name

/-- The repository that an identifier names, unless it has more than one slash. -/
def ofIdentifier? (identifier : String) : Option Repository :=
  match identifier.toList.splitOn '/' with
  | [name] => some ⟨defaultSpace, String.ofList name⟩
  | [space, name] => some ⟨String.ofList space, String.ofList name⟩
  | _ => none

theorem length_splitOn {α : Type} [BEq α] [LawfulBEq α] (mark : α) (text : List α) :
    (text.splitOn mark).length = text.count mark + 1 := by
  induction text with
  | nil => simp
  | cons first rest ih =>
      rw [List.splitOn_cons_eq_if_modifyHead]
      by_cases same : first = mark
      · simp [same, ih]
      · simp [same, ih]

theorem ofIdentifier?_isSome_iff {identifier : String} :
    (ofIdentifier? identifier).isSome ↔ identifier.toList.count '/' ≤ 1 := by
  have parts := length_splitOn '/' identifier.toList
  unfold ofIdentifier?
  rcases split : identifier.toList.splitOn '/' with _ | ⟨first, _ | ⟨second, _ | ⟨third, rest⟩⟩⟩
  all_goals rw [split] at parts
  · simp at parts
  · simp at parts ⊢
    omega
  · simp at parts ⊢
    omega
  · simp at parts ⊢
    omega

end Repository

/-- An image: a repository and a tag in it. -/
structure Reference where
  repository : Repository
  tag : String
deriving DecidableEq, Repr

def Reference.text (reference : Reference) : String :=
  reference.repository.path ++ ":" ++ reference.tag

instance : ToString Reference := ⟨Reference.text⟩

end ImageOwnership.Image
