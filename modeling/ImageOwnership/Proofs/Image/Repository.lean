import ImageOwnership.Image.Reference
import ImageOwnership.Proofs.Url.Segments

/-!
Repositories and their paths. Neither part of a repository that an identifier names holds a slash, and
so the path of the repository reads back as the same repository.
-/

namespace ImageOwnership.Image.Repository

theorem slashless_defaultSpace : '/' ∉ defaultSpace.toList := by
  decide

theorem slashless_of_ofIdentifier? {identifier : String} {repository : Repository}
    (named : ofIdentifier? identifier = some repository) :
    '/' ∉ repository.space.toList ∧ '/' ∉ repository.name.toList := by
  have slashless (segment : List Char) (member : segment ∈ identifier.toList.splitOn '/') :
      '/' ∉ segment := Url.slashless_of_mem_splitOn member
  unfold ofIdentifier? at named
  split at named
  · rename_i name parts
    cases named
    rw [parts] at slashless
    rw [String.toList_ofList]
    exact ⟨slashless_defaultSpace, slashless name List.mem_cons_self⟩
  · rename_i space name parts
    cases named
    rw [parts] at slashless
    rw [String.toList_ofList, String.toList_ofList]
    exact ⟨slashless space List.mem_cons_self,
      slashless name (List.mem_cons_of_mem _ List.mem_cons_self)⟩
  · cases named

/-- The path of a repository without slashes in its parts names the repository. -/
theorem ofIdentifier?_path {repository : Repository} (space : '/' ∉ repository.space.toList)
    (name : '/' ∉ repository.name.toList) : ofIdentifier? repository.path = some repository := by
  have written : repository.path.toList =
      ['/'].intercalate [repository.space.toList, repository.name.toList] := by
    simp [path, List.intercalate]
  have slashless : ∀ part ∈ [repository.space.toList, repository.name.toList], '/' ∉ part := by
    simp [space, name]
  unfold ofIdentifier?
  rw [written, List.splitOn_intercalate '/' slashless (by simp)]
  simp

theorem ofIdentifier?_name {name : String} (slashless : '/' ∉ name.toList) :
    ofIdentifier? name = some ⟨defaultSpace, name⟩ := by
  have whole : name.toList = ['/'].intercalate [name.toList] := by
    simp [List.intercalate]
  have alone : name.toList.splitOn '/' = [name.toList] := by
    rw [whole, List.splitOn_intercalate '/' (by simpa using slashless) (by simp)]
    simp [List.intercalate]
  unfold ofIdentifier?
  rw [alone]
  simp

/-- The ways to write a repository: its path, and its name alone in the default namespace. -/
inductive WrittenAs (repository : Repository) : String → Prop where
  | path : WrittenAs repository repository.path
  | name (common : repository.space = defaultSpace) : WrittenAs repository repository.name

theorem writtenAs_of_ofIdentifier? {identifier : String} {repository : Repository}
    (named : ofIdentifier? identifier = some repository) : repository.WrittenAs identifier := by
  have joined : identifier.toList = ['/'].intercalate (identifier.toList.splitOn '/') :=
    (List.intercalate_splitOn '/').symm
  unfold ofIdentifier? at named
  split at named
  · rename_i name parts
    cases named
    have same : identifier = String.ofList name := by
      apply String.toList_inj.mp
      rw [joined, parts]
      simp [List.intercalate]
    rw [same]
    exact .name rfl
  · rename_i space name parts
    cases named
    have same : identifier = Repository.path ⟨String.ofList space, String.ofList name⟩ := by
      apply String.toList_inj.mp
      rw [joined, parts]
      simp [Repository.path, List.intercalate]
    rw [same]
    exact .path
  · cases named

/-- An identifier names the repository that it writes, and no part of that holds a slash. -/
theorem ofIdentifier?_eq_some_iff {identifier : String} {repository : Repository} :
    ofIdentifier? identifier = some repository ↔
      repository.WrittenAs identifier ∧ '/' ∉ repository.space.toList ∧ '/' ∉ repository.name.toList := by
  constructor
  · intro named
    exact ⟨writtenAs_of_ofIdentifier? named, slashless_of_ofIdentifier? named⟩
  · rintro ⟨written, space, name⟩
    cases written with
    | path => exact ofIdentifier?_path space name
    | name common =>
        rw [ofIdentifier?_name name, ← common]

/-- Repositories that identifiers name are told by their paths. -/
theorem eq_of_path_eq {identifier other : String} {repository second : Repository}
    (named : ofIdentifier? identifier = some repository)
    (renamed : ofIdentifier? other = some second) (same : repository.path = second.path) :
    repository = second := by
  obtain ⟨space, name⟩ := slashless_of_ofIdentifier? named
  obtain ⟨space', name'⟩ := slashless_of_ofIdentifier? renamed
  have read := ofIdentifier?_path space name
  rw [same, ofIdentifier?_path space' name'] at read
  exact (Option.some.inj read).symm

end ImageOwnership.Image.Repository
