import ImageOwnership.Proofs.Image.Repository
import ImageOwnership.Proofs.Refusals

/-!
How identifiers are read. One with more than a slash is refused, and each other one names a repository
whose path reads back as the same. Two identifiers name one repository only where one of them leaves the
default namespace out.
-/

namespace ImageOwnership

open Image (Repository Reference)

/-- The second text is the first with the default namespace written out. -/
def WrittenOut (text whole : String) : Prop :=
  '/' ∉ text.toList ∧ whole = "library/" ++ text

/-- What is asked of a reading of identifiers. -/
structure ReadsIdentifiers (read : String → Except Failure Repository) : Prop where
  accepts : ∀ text, (∃ repository, read text = .ok repository) ↔ text.toList.count '/' ≤ 1
  refuses : ∀ text, ¬ text.toList.count '/' ≤ 1 → read text = .error (.identifier text)
  slashless : ∀ text repository, read text = .ok repository →
    '/' ∉ repository.space.toList ∧ '/' ∉ repository.name.toList
  /-- Whatever the tag, the path in the reference to an image reads back. -/
  stable : ∀ text (reference : Reference), read text = .ok reference.repository →
    read reference.repository.path = .ok reference.repository
  onto : ∀ space name : String, '/' ∉ space.toList → '/' ∉ name.toList →
    ∃ text, read text = .ok ⟨space, name⟩
  alike : ∀ text other, text ≠ other →
    (read text = read other ↔ WrittenOut text other ∨ WrittenOut other text)

namespace Image.Repository

variable {repository : Repository} {text other : String}

theorem path_common (common : repository.space = defaultSpace) :
    repository.path = "library/" ++ repository.name := by
  apply String.toList_inj.mp
  simp [Repository.path, common, defaultSpace]

/-- A repository of the default namespace is written in two ways, any other one in one way. -/
theorem WrittenAs.writtenOut (slashless : '/' ∉ repository.name.toList)
    (written : repository.WrittenAs text) (again : repository.WrittenAs other) :
    text = other ∨ WrittenOut text other ∨ WrittenOut other text := by
  have out (common : repository.space = defaultSpace) : WrittenOut repository.name repository.path :=
    ⟨slashless, path_common common⟩
  cases written with
  | path =>
      cases again with
      | path => exact .inl rfl
      | name common => exact .inr (.inr (out common))
  | name common =>
      cases again with
      | path => exact .inr (.inl (out common))
      | name => exact .inl rfl

theorem ofIdentifier?_writtenOut (out : WrittenOut text other) :
    ofIdentifier? text = some ⟨defaultSpace, text⟩ ∧ ofIdentifier? other = some ⟨defaultSpace, text⟩ := by
  obtain ⟨slashless, whole⟩ := out
  have path : other = Repository.path ⟨defaultSpace, text⟩ := by rw [whole, path_common rfl]
  refine ⟨ofIdentifier?_name slashless, ?_⟩
  rw [path, ofIdentifier?_path slashless_defaultSpace slashless]

end Image.Repository

namespace Claim

open Image.Repository

/-- The claim on the package with another identifier. -/
def naming (identifier : String) (claim : Claim) : Claim :=
  { claim with descriptor := { claim.descriptor with identifier } }

variable {claim : Claim} {text other : String}

theorem repository_naming_eq_ok_iff {repository : Repository} :
    (claim.naming text).repository = .ok repository ↔ ofIdentifier? text = some repository :=
  repository_eq_ok_iff

theorem repository_naming_refused (refused : ¬ text.toList.count '/' ≤ 1) :
    (claim.naming text).repository = .error (.identifier text) := by
  apply repository_misnamed
  show 2 ≤ text.toList.count '/'
  omega

theorem naming_alike (different : text ≠ other)
    (same : (claim.naming text).repository = (claim.naming other).repository) :
    WrittenOut text other ∨ WrittenOut other text := by
  by_cases named : text.toList.count '/' ≤ 1
  · obtain ⟨repository, found⟩ :=
      Option.isSome_iff_exists.mp (ofIdentifier?_isSome_iff.mpr named)
    have read : (claim.naming text).repository = .ok repository :=
      repository_naming_eq_ok_iff.mpr found
    have again : ofIdentifier? other = some repository :=
      repository_naming_eq_ok_iff.mp (same.symm.trans read)
    obtain ⟨written, _, slashless⟩ := ofIdentifier?_eq_some_iff.mp found
    obtain ⟨rewritten, _⟩ := ofIdentifier?_eq_some_iff.mp again
    exact (written.writtenOut slashless rewritten).resolve_left different
  · -- A refusal carries the text, so that no other text is refused in the same way.
    rw [repository_naming_refused named] at same
    cases found : (claim.naming other).repository with
    | ok repository =>
        rw [found] at same
        cases same
    | error failure =>
        have refused : ¬ other.toList.count '/' ≤ 1 := by
          intro single
          obtain ⟨repository, read⟩ :=
            Option.isSome_iff_exists.mp (ofIdentifier?_isSome_iff.mpr single)
          rw [repository_naming_eq_ok_iff.mpr read] at found
          cases found
        rw [repository_naming_refused refused] at same
        cases same
        exact absurd rfl different

/-- Every claim reads the identifier of its package as is asked. -/
theorem repository_readsIdentifiers (claim : Claim) :
    ReadsIdentifiers fun text => (claim.naming text).repository where
  accepts := fun text => by
    simp only [repository_naming_eq_ok_iff, ← Option.isSome_iff_exists]
    exact ofIdentifier?_isSome_iff
  refuses := fun text => repository_naming_refused
  slashless := fun text repository named =>
    slashless_of_ofIdentifier? (repository_naming_eq_ok_iff.mp named)
  stable := fun text reference named => by
    obtain ⟨space, name⟩ := slashless_of_ofIdentifier? (repository_naming_eq_ok_iff.mp named)
    exact repository_naming_eq_ok_iff.mpr (ofIdentifier?_path space name)
  onto := fun space name slashless slashless' =>
    ⟨Repository.path ⟨space, name⟩,
      repository_naming_eq_ok_iff.mpr (ofIdentifier?_path slashless slashless')⟩
  alike := fun text other different => by
    constructor
    · exact naming_alike different
    · rintro (out | out)
      · obtain ⟨short, long⟩ := ofIdentifier?_writtenOut out
        rw [repository_naming_eq_ok_iff.mpr short, repository_naming_eq_ok_iff.mpr long]
      · obtain ⟨short, long⟩ := ofIdentifier?_writtenOut out
        rw [repository_naming_eq_ok_iff.mpr short, repository_naming_eq_ok_iff.mpr long]

end Claim

end ImageOwnership
