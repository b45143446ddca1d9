import ImageOwnership.Json.Basic
import Mathlib.Data.List.Forall2
import Mathlib.Data.List.Induction

/-!
Members of objects by name. The members that count have each name once, with the value of the last member
of that name.
-/

namespace ImageOwnership.Json

variable {Text Value : Type} [DecidableEq Text] {name : Text} {members : List (Text × Value)}

/-! ### Members that are put in a place -/

theorem lookup_cons_of_ne {key : Text} (value : Value) (members : List (Text × Value))
    (other : key ≠ name) : ((key, value) :: members).lookup name = members.lookup name := by
  rw [List.lookup_cons, beq_false_of_ne (Ne.symm other)]

theorem lookup_putMember (key : Text) (value : Value) (members : List (Text × Value)) (name : Text) :
    (putMember key value members).lookup name =
      if key = name then some value else members.lookup name := by
  induction members with
  | nil =>
      rw [putMember]
      split
      · subst name
        exact List.lookup_cons_self
      · exact lookup_cons_of_ne value [] ‹_›
  | cons member rest ih =>
      obtain ⟨other, old⟩ := member
      rw [putMember]
      by_cases here : other = key
      · subst key
        rw [if_pos rfl]
        split
        · subst name
          exact List.lookup_cons_self
        · rw [lookup_cons_of_ne value rest ‹_›, lookup_cons_of_ne old rest ‹_›]
      · rw [if_neg here]
        by_cases same : other = name
        · subst name
          rw [if_neg (Ne.symm here), List.lookup_cons_self, List.lookup_cons_self]
        · rw [lookup_cons_of_ne old _ same, lookup_cons_of_ne old rest same, ih]

theorem map_fst_putMember (key : Text) (value : Value) (members : List (Text × Value)) :
    (putMember key value members).map Prod.fst =
      if key ∈ members.map Prod.fst then members.map Prod.fst else members.map Prod.fst ++ [key] := by
  induction members with
  | nil => rfl
  | cons member rest ih =>
      obtain ⟨other, old⟩ := member
      rw [putMember]
      by_cases here : other = key
      · simp [here]
      · rw [if_neg here, List.map_cons, ih]
        by_cases later : key ∈ rest.map Prod.fst
        · have present : key ∈ ((other, old) :: rest).map Prod.fst := List.mem_cons_of_mem _ later
          rw [if_pos later, if_pos present]
          rfl
        · have absent : key ∉ ((other, old) :: rest).map Prod.fst := by
            simp only [List.map_cons, List.mem_cons, not_or]
            exact ⟨Ne.symm here, later⟩
          rw [if_neg later, if_neg absent]
          rfl

/-! ### Members that count -/

theorem uniqueMembers_concat (members : List (Text × Value)) (member : Text × Value) :
    uniqueMembers (members ++ [member]) = putMember member.1 member.2 (uniqueMembers members) := by
  rw [uniqueMembers, List.foldl_append]
  rfl

/-- Under each name the last value counts. -/
theorem lookup_uniqueMembers (members : List (Text × Value)) (name : Text) :
    (uniqueMembers members).lookup name = lastNamed name members := by
  induction members using List.reverseRecOn with
  | nil => rfl
  | append_singleton front last ih =>
      rw [uniqueMembers_concat, lookup_putMember, ih, lastNamed_append]
      by_cases same : last.1 = name
      · simp [lastNamed, same]
      · simp [lastNamed, same]

/-- The names stand in the order in which they first occur, each of them once. -/
theorem map_fst_uniqueMembers (members : List (Text × Value)) :
    (uniqueMembers members).map Prod.fst = (members.map Prod.fst).eraseDups := by
  induction members using List.reverseRecOn with
  | nil => rfl
  | append_singleton front last ih =>
      rw [uniqueMembers_concat, map_fst_putMember, ih, List.map_append, List.eraseDups_append]
      by_cases present : last.1 ∈ front.map Prod.fst
      · rw [if_pos (List.mem_eraseDups.mpr present)]
        simp [List.removeAll, present]
      · rw [if_neg (List.mem_eraseDups.not.mpr present)]
        simp [List.removeAll, present, List.eraseDups_cons]

theorem nodup_uniqueMembers (members : List (Text × Value)) :
    ((uniqueMembers members).map Prod.fst).Nodup := by
  induction members using List.reverseRecOn with
  | nil => exact List.nodup_nil
  | append_singleton front last ih =>
      rw [uniqueMembers_concat, map_fst_putMember]
      split
      · exact ih
      · rename_i absent
        rw [List.nodup_append]
        refine ⟨ih, List.nodup_cons.mpr ⟨List.not_mem_nil, List.nodup_nil⟩, ?_⟩
        rintro name member _ single rfl
        rw [List.mem_singleton.mp single] at member
        exact absent member

/-! ### Members side by side -/

theorem lookup_eq_none (absent : name ∉ members.map Prod.fst) : members.lookup name = none := by
  rw [List.lookup_eq_none_iff]
  rintro ⟨key, value⟩ member
  have other : name ≠ key := by
    rintro rfl
    exact absent (List.mem_map.mpr ⟨_, member, rfl⟩)
  simpa using other

/-- Members with the same names side by side, and values that go together, are told by their lookups. -/
theorem forall₂_iff_lookup {Other : Type} {Goes : Value → Other → Prop}
    (distinct : (members.map Prod.fst).Nodup) {others : List (Text × Other)} :
    List.Forall₂ (fun member other => member.1 = other.1 ∧ Goes member.2 other.2) members others ↔
      others.map Prod.fst = members.map Prod.fst ∧
        ∀ name, Option.Rel Goes (members.lookup name) (others.lookup name) := by
  induction members generalizing others with
  | nil =>
      constructor
      · rintro ⟨⟩
        exact ⟨rfl, fun _ => .none⟩
      · rintro ⟨names, _⟩
        rw [List.map_eq_nil_iff.mp names]
        exact .nil
  | cons member rest ih =>
      obtain ⟨key, value⟩ := member
      obtain ⟨absent, apart⟩ := List.nodup_cons.mp distinct
      constructor
      · rintro (_ | ⟨⟨same, goes⟩, later⟩)
        rename_i other others
        obtain ⟨name, read⟩ := other
        cases same
        obtain ⟨names, lookups⟩ := (ih apart).mp later
        refine ⟨by rw [List.map_cons, List.map_cons, names], fun name => ?_⟩
        by_cases same : name = key
        · subst same
          simpa using Option.Rel.some goes
        · rw [List.lookup_cons, List.lookup_cons, beq_false_of_ne same]
          exact lookups name
      · rintro ⟨names, lookups⟩
        cases others with
        | nil => cases names
        | cons other others =>
            obtain ⟨name, read⟩ := other
            obtain ⟨same, later⟩ := List.cons.inj names
            cases same
            have here : Option.Rel Goes (some value) (some read) := by simpa using lookups key
            cases here with
            | some goes =>
                refine .cons ⟨rfl, goes⟩ ((ih apart).mpr ⟨later, fun asked => ?_⟩)
                by_cases first : asked = key
                · subst first
                  rw [lookup_eq_none absent, lookup_eq_none (by rwa [later])]
                  exact .none
                · have goesOn := lookups asked
                  rwa [List.lookup_cons, List.lookup_cons, beq_false_of_ne first] at goesOn

/-- A member of another name makes no difference to the value of a name, wherever it stands. -/
theorem lastNamed_of_other {key : Text} (other : key ≠ name) (front back : List (Text × Value))
    (value : Value) :
    lastNamed name (front ++ (key, value) :: back) = lastNamed name (front ++ back) := by
  rw [lastNamed_append, lastNamed_append, lastNamed, if_neg other]
  cases lastNamed name back <;> rfl

end ImageOwnership.Json
