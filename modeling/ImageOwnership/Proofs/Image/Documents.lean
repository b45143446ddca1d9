import ImageOwnership.Image.Config
import ImageOwnership.Image.Manifest
import ImageOwnership.Proofs.Json.Unique
import ImageOwnership.Proofs.Result
import Mathlib.Data.List.Forall2

/-!
What documents of a registry are read as. The rules say which JSON values are manifests and image configs
and what they hold, and which values are as good as each other: those that are apart in members that are
not read, and in parts that are left out, null or empty.
-/

namespace ImageOwnership

/-! ### Parts of documents -/

namespace Document

variable {α β : Type}

/-- What a member is read as: a default when it is absent or null, and else what its value says. -/
inductive MemberIs (default : α) (Is : Json String → α → Prop) : Option (Json String) → α → Prop where
  | absent : MemberIs default Is none default
  | null : MemberIs default Is (some .null) default
  | given {value : Json String} {read : α} (stands : Is value read) :
      MemberIs default Is (some value) read

/-- A member with nothing in it: it is absent, null or empty. -/
inductive IsVoid (Empty : Json String → Prop) : Option (Json String) → Prop where
  | absent : IsVoid Empty none
  | null : IsVoid Empty (some .null)
  | empty {value : Json String} (empty : Empty value) : IsVoid Empty (some value)

/-- Members as good as each other: there is nothing in either, or their values are. -/
inductive MemberAlike (Empty : Json String → Prop) (Alike : Json String → Json String → Prop) :
    Option (Json String) → Option (Json String) → Prop where
  | void {first second : Option (Json String)} (empty : IsVoid Empty first)
      (alsoEmpty : IsVoid Empty second) : MemberAlike Empty Alike first second
  | given {first second : Json String} (alike : Alike first second) :
      MemberAlike Empty Alike (some first) (some second)

/-- Values as good as each other: the same one, or objects with members that are. -/
inductive ObjectAlike (Alike : List (String × Json String) → List (String × Json String) → Prop) :
    Json String → Json String → Prop where
  | same {value : Json String} : ObjectAlike Alike value value
  | object {members others : List (String × Json String)} (alike : Alike members others) :
      ObjectAlike Alike (.object members) (.object others)

/-- A relation for which members of other names do not count, wherever they stand in an object. -/
def Overlooks (known : List String) (Alike : Json String → Json String → Prop) : Prop :=
  ∀ front back key value, key ∉ known →
    Alike (.object (front ++ (key, value) :: back)) (.object (front ++ back))

theorem MemberAlike.refl {Empty : Json String → Prop} {Alike : Json String → Json String → Prop}
    (same : ∀ value, Alike value value) (member : Option (Json String)) :
    MemberAlike Empty Alike member member := by
  cases member with
  | none => exact .void .absent .absent
  | some value => exact .given (same value)

/-- Objects are told apart by the members that are known, and by no others. -/
theorem ObjectAlike.overlooks {known : List String}
    {Alike : List (String × Json String) → List (String × Json String) → Prop}
    (alike : ∀ members others,
      (∀ name ∈ known, Json.lastNamed name members = Json.lastNamed name others) →
        Alike members others) : Overlooks known (ObjectAlike Alike) := by
  intro front back key value unknown
  refine .object (alike _ _ fun name member => ?_)
  have other : key ≠ name := by
    rintro rfl
    exact unknown member
  exact Json.lastNamed_of_other other front back value

theorem Decoded.inside_eq_ok {step : Step} {decoded : Decoded α} {value : α} :
    decoded.inside step = .ok value ↔ decoded = .ok value :=
  Result.mapError_eq_ok

theorem Decoded.pair_eq_ok {first : Decoded α} {second : Decoded β} {values : α × β} :
    first.pair second = .ok values ↔ first = .ok values.1 ∧ second = .ok values.2 := by
  obtain ⟨left, right⟩ := values
  cases first <;> cases second <;> simp [Decoded.pair]

theorem Decoded.map_eq_ok {decoded : Decoded α} {change : α → β} {value : β} :
    decoded.map change = .ok value ↔ ∃ read, decoded = .ok read ∧ change read = value := by
  cases decoded <;> simp [Except.map]

theorem Decoded.itemsFrom_eq_ok {decode : Json String → Decoded α} {items : List (Json String)}
    {position : Nat} {values : List α} :
    Decoded.itemsFrom decode position items = .ok values ↔
      List.Forall₂ (fun item value => decode item = .ok value) items values := by
  induction items generalizing position values with
  | nil => simp [Decoded.itemsFrom, eq_comm]
  | cons item rest ih =>
      simp only [Decoded.itemsFrom, Decoded.map_eq_ok, Decoded.pair_eq_ok, Decoded.inside_eq_ok, ih,
        List.forall₂_cons_left_iff, Prod.exists]
      constructor
      · rintro ⟨value, others, ⟨here, later⟩, rfl⟩
        exact ⟨value, others, here, later, rfl⟩
      · rintro ⟨value, others, here, later, rfl⟩
        exact ⟨value, others, ⟨here, later⟩, rfl⟩

theorem Decoded.entries_eq_ok {decode : Json String → Decoded α}
    {members : List (String × Json String)} {values : List (String × α)} :
    Decoded.entries decode members = .ok values ↔
      List.Forall₂ (fun member value => member.1 = value.1 ∧ decode member.2 = .ok value.2) members
        values := by
  induction members generalizing values with
  | nil => simp [Decoded.entries, eq_comm]
  | cons member rest ih =>
      obtain ⟨name, value⟩ := member
      simp only [Decoded.entries, Decoded.map_eq_ok, Decoded.pair_eq_ok, Decoded.inside_eq_ok, ih,
        List.forall₂_cons_left_iff, Prod.exists]
      constructor
      · rintro ⟨read, others, ⟨here, later⟩, rfl⟩
        exact ⟨name, read, others, ⟨rfl, here⟩, later, rfl⟩
      · rintro ⟨_, read, others, ⟨rfl, here⟩, later, rfl⟩
        exact ⟨read, others, ⟨here, later⟩, rfl⟩

theorem optionalField_eq_ok {name : String} {default : α} {decode : Json String → Decoded α}
    {members : List (String × Json String)} {read : α} :
    optionalField name default decode members = .ok read ↔
      (Json.lastNamed name members = none ∧ default = read) ∨
        ∃ value, Json.lastNamed name members = some value ∧ decode value = .ok read := by
  unfold optionalField
  cases Json.lastNamed name members with
  | none => simp
  | some value => simp [Decoded.inside_eq_ok]

/-- A member that may be null as well as absent. -/
theorem optionalField_eq_ok_iff {name : String} {default read : α} {decode : Json String → Decoded α}
    {members : List (String × Json String)} {Is : Json String → α → Prop}
    (null : decode .null = .ok default)
    (other : ∀ value, value ≠ .null → ∀ read, decode value = .ok read ↔ Is value read)
    (unnull : ∀ read, ¬ Is .null read) :
    optionalField name default decode members = .ok read ↔
      MemberIs default Is (Json.lastNamed name members) read := by
  rw [optionalField_eq_ok]
  constructor
  · rintro (⟨absent, rfl⟩ | ⟨value, given, decoded⟩)
    · rw [absent]
      exact .absent
    · rw [given]
      by_cases void : value = .null
      · subst void
        rw [null] at decoded
        cases decoded
        exact .null
      · exact .given ((other value void read).mp decoded)
  · intro member
    generalize Json.lastNamed name members = found at member ⊢
    cases member with
    | absent => exact .inl ⟨rfl, rfl⟩
    | null => exact .inr ⟨_, rfl, null⟩
    | @given value _ stands =>
        have void : value ≠ .null := by
          rintro rfl
          exact unnull read stands
        exact .inr ⟨value, rfl, (other value void read).mpr stands⟩

end Document

namespace Image

/-! ### What the documents hold -/

namespace Manifest

/-- The digest of a descriptor: a string, or the empty text when there is none. -/
inductive DigestIs : Json String → String → Prop where
  | absent {members : List (String × Json String)} (absent : Json.lastNamed "digest" members = none) :
      DigestIs (.object members) ""
  | given {members : List (String × Json String)} {digest : String}
      (given : Json.lastNamed "digest" members = some (.string digest)) :
      DigestIs (.object members) digest

inductive EntriesAre : Json String → List String → Prop where
  | array {items : List (Json String)} {digests : List String}
      (entries : List.Forall₂ DigestIs items digests) : EntriesAre (.array items) digests

/-- The JSON values that are manifests, and what they are read as. -/
inductive Describes : Json String → Manifest → Prop where
  | object {members : List (String × Json String)} {manifest : Manifest}
      (platforms : Document.MemberIs [] EntriesAre (Json.lastNamed "manifests" members)
        manifest.platforms)
      (config : Document.MemberIs "" DigestIs (Json.lastNamed "config" members) manifest.config) :
      Describes (.object members) manifest

theorem digest_eq_ok {value : Json String} {read : String} :
    digest value = .ok read ↔ DigestIs value read := by
  constructor
  · intro decoded
    unfold digest at decoded
    split at decoded
    · obtain ⟨absent, rfl⟩ | ⟨text, given, decoded⟩ := Document.optionalField_eq_ok.mp decoded
      · exact .absent absent
      · unfold Document.string at decoded
        split at decoded
        · cases decoded
          exact .given given
        · cases decoded
    · cases decoded
  · rintro (absent | given)
    · exact Document.optionalField_eq_ok.mpr (.inl ⟨absent, rfl⟩)
    · exact Document.optionalField_eq_ok.mpr (.inr ⟨_, given, rfl⟩)

theorem platformDigests_eq_ok {value : Json String} (given : value ≠ .null) (read : List String) :
    platformDigests value = .ok read ↔ EntriesAre value read := by
  cases value with
  | null => exact absurd rfl given
  | array items =>
      simp only [platformDigests, Document.Decoded.itemsFrom_eq_ok, digest_eq_ok]
      exact ⟨.array, fun ⟨entries⟩ => entries⟩
  | _ => exact ⟨nofun, nofun⟩

theorem configDigest_of_given {value : Json String} (given : value ≠ .null) :
    configDigest value = digest value := by
  unfold configDigest
  split
  · exact absurd rfl given
  · rfl

theorem ofJson_eq_ok {value : Json String} {manifest : Manifest} :
    ofJson value = .ok manifest ↔ Describes value manifest := by
  cases value with
  | object members =>
      have platforms (read : List String) : Document.optionalField "manifests" [] platformDigests
          members = .ok read ↔ Document.MemberIs [] EntriesAre (Json.lastNamed "manifests" members)
            read :=
        Document.optionalField_eq_ok_iff rfl (fun _ => platformDigests_eq_ok) nofun
      have config (read : String) : Document.optionalField "config" "" configDigest members =
          .ok read ↔ Document.MemberIs "" DigestIs (Json.lastNamed "config" members) read :=
        Document.optionalField_eq_ok_iff rfl
          (fun _ given _ => by rw [configDigest_of_given given, digest_eq_ok]) nofun
      simp only [ofJson, Document.Decoded.map_eq_ok, Document.Decoded.pair_eq_ok, platforms, config]
      constructor
      · rintro ⟨_, parts, rfl⟩
        exact .object parts.1 parts.2
      · rintro ⟨entries, digest⟩
        exact ⟨(manifest.platforms, manifest.config), ⟨entries, digest⟩, rfl⟩
  | _ =>
      constructor
      · intro decoded
        cases decoded
      · intro described
        cases described

end Manifest

namespace Config

inductive LabelIs : Json String → String → Prop where
  | null : LabelIs .null ""
  | text {label : String} : LabelIs (.string label) label

/-- The labels in the members of an object: under each of its names what the last value there says. -/
structure LabelsAre (members : List (String × Json String)) (labels : Labels) : Prop where
  names : labels.map Prod.fst = (members.map Prod.fst).eraseDups
  values : ∀ name, Option.Rel LabelIs (Json.lastNamed name members) (labels.lookup name)

inductive LabelMapIs : Json String → Option Labels → Prop where
  | object {members : List (String × Json String)} {labels : Labels}
      (labelled : LabelsAre members labels) : LabelMapIs (.object members) (some labels)

inductive ContainerIs : Json String → Option Labels → Prop where
  | object {members : List (String × Json String)} {labels : Option Labels}
      (labelled : Document.MemberIs none LabelMapIs (Json.lastNamed "Labels" members) labels) :
      ContainerIs (.object members) labels

/-- The JSON values that are image configs, and what they are read as. -/
inductive Describes : Json String → Config → Prop where
  | object {members : List (String × Json String)} {config : Config}
      (container : Document.MemberIs none ContainerIs (Json.lastNamed "config" members)
        config.labels?) : Describes (.object members) config

theorem label_eq_ok {value : Json String} {read : String} :
    label value = .ok read ↔ LabelIs value read := by
  constructor
  · intro decoded
    cases value with
    | null =>
        cases decoded
        exact .null
    | string text =>
        cases decoded
        exact .text
    | _ => cases decoded
  · rintro ⟨⟩
    · rfl
    · rfl

theorem entries_eq_ok {members : List (String × Json String)} {labels : Labels} :
    Document.Decoded.entries label (Json.uniqueMembers members) = .ok labels ↔
      LabelsAre members labels := by
  simp only [Document.Decoded.entries_eq_ok, label_eq_ok]
  rw [Json.forall₂_iff_lookup (Json.nodup_uniqueMembers members), Json.map_fst_uniqueMembers]
  simp only [Json.lookup_uniqueMembers]
  constructor
  · rintro ⟨names, values⟩
    exact ⟨names, values⟩
  · rintro ⟨names, values⟩
    exact ⟨names, values⟩

theorem labelMap_eq_ok {value : Json String} (given : value ≠ .null) (read : Option Labels) :
    labelMap value = .ok read ↔ LabelMapIs value read := by
  cases value with
  | null => exact absurd rfl given
  | object members =>
      simp only [labelMap, Document.Decoded.map_eq_ok, entries_eq_ok]
      constructor
      · rintro ⟨labels, labelled, rfl⟩
        exact .object labelled
      · rintro ⟨labelled⟩
        exact ⟨_, labelled, rfl⟩
  | _ => exact ⟨nofun, nofun⟩

theorem container_eq_ok {value : Json String} (given : value ≠ .null) (read : Option Labels) :
    container value = .ok read ↔ ContainerIs value read := by
  cases value with
  | null => exact absurd rfl given
  | object members =>
      have labels : Document.optionalField "Labels" none labelMap members = .ok read ↔
          Document.MemberIs none LabelMapIs (Json.lastNamed "Labels" members) read :=
        Document.optionalField_eq_ok_iff rfl (fun _ => labelMap_eq_ok) nofun
      exact ⟨fun decoded => .object (labels.mp decoded), fun ⟨labelled⟩ => labels.mpr labelled⟩
  | _ => exact ⟨nofun, nofun⟩

theorem ofJson_eq_ok {value : Json String} {config : Config} :
    ofJson value = .ok config ↔ Describes value config := by
  cases value with
  | object members =>
      have labels (read : Option Labels) : Document.optionalField "config" none container members =
          .ok read ↔ Document.MemberIs none ContainerIs (Json.lastNamed "config" members) read :=
        Document.optionalField_eq_ok_iff rfl (fun _ => container_eq_ok) nofun
      simp only [ofJson, Document.Decoded.map_eq_ok, labels]
      constructor
      · rintro ⟨_, parts, rfl⟩
        exact .object parts
      · rintro ⟨parts⟩
        exact ⟨config.labels?, parts, rfl⟩
  | _ =>
      constructor
      · intro decoded
        cases decoded
      · intro described
        cases described

end Config

/-! ### Documents as good as each other -/

namespace Manifest

def DescriptorAlike : Json String → Json String → Prop :=
  Document.ObjectAlike fun members others =>
    Json.lastNamed "digest" members = Json.lastNamed "digest" others

/-- An object that names no digest. -/
def Digestless (value : Json String) : Prop :=
  ∃ members, value = .object members ∧ Json.lastNamed "digest" members = none

inductive EntriesAlike : Json String → Json String → Prop where
  | same {value : Json String} : EntriesAlike value value
  | array {items others : List (Json String)} (alike : List.Forall₂ DescriptorAlike items others) :
      EntriesAlike (.array items) (.array others)

/-- Manifests that are apart only in what is not read, and in how a part is left out. -/
def Alike : Json String → Json String → Prop :=
  Document.ObjectAlike fun members others =>
    Document.MemberAlike (· = .array []) EntriesAlike (Json.lastNamed "manifests" members)
        (Json.lastNamed "manifests" others) ∧
      Document.MemberAlike Digestless DescriptorAlike (Json.lastNamed "config" members)
        (Json.lastNamed "config" others)

theorem descriptorAlike_overlooks : Document.Overlooks ["digest"] DescriptorAlike :=
  Document.ObjectAlike.overlooks fun _ _ same => same "digest" (by decide)

theorem alike_overlooks : Document.Overlooks ["manifests", "config"] Alike := by
  refine Document.ObjectAlike.overlooks fun members others same => ⟨?_, ?_⟩
  · rw [same "manifests" (by decide)]
    exact .refl (fun _ => .same) _
  · rw [same "config" (by decide)]
    exact .refl (fun _ => .same) _

end Manifest

namespace Config

/-- Labels that are absent, null or an empty object. -/
def NoLabels : Option (Json String) → Prop :=
  Document.IsVoid (· = .object [])

/-- An object that names no labels. -/
def Labelless (value : Json String) : Prop :=
  ∃ members, value = .object members ∧ NoLabels (Json.lastNamed "Labels" members)

def ContainerAlike : Json String → Json String → Prop :=
  Document.ObjectAlike fun members others =>
    Document.MemberAlike (· = .object []) (· = ·) (Json.lastNamed "Labels" members)
      (Json.lastNamed "Labels" others)

/-- Image configs that are apart only in what is not read, and in how a part is left out. -/
def Alike : Json String → Json String → Prop :=
  Document.ObjectAlike fun members others =>
    Document.MemberAlike Labelless ContainerAlike (Json.lastNamed "config" members)
      (Json.lastNamed "config" others)

theorem containerAlike_overlooks : Document.Overlooks ["Labels"] ContainerAlike := by
  refine Document.ObjectAlike.overlooks fun members others same => ?_
  rw [same "Labels" (by decide)]
  exact .refl (fun _ => rfl) _

theorem alike_overlooks : Document.Overlooks ["config"] Alike := by
  refine Document.ObjectAlike.overlooks fun members others same => ?_
  rw [same "config" (by decide)]
  exact .refl (fun _ => .same) _

end Config

end Image

namespace Document

variable {α β : Type} {name : String} {default : α} {decode : Json String → Decoded α}
  {members others : List (String × Json String)} {Empty : Json String → Prop}
  {Alike : Json String → Json String → Prop}

theorem optionalField_of {found : Option (Json String)}
    (here : Json.lastNamed name members = found) :
    optionalField name default decode members =
      found.elim (.ok default) fun value => (decode value).inside (.field name) := by
  subst here
  unfold optionalField
  cases Json.lastNamed name members <;> rfl

theorem optionalField_map (view : α → β) :
    (optionalField name default decode members).map view =
      optionalField name (view default) (fun value => (decode value).map view) members := by
  unfold optionalField
  cases Json.lastNamed name members with
  | none => rfl
  | some value =>
      simp only
      cases decode value <;> rfl

/-- A member with nothing in it is read as the default. -/
theorem optionalField_void (null : decode .null = .ok default)
    (empty : ∀ value, Empty value → decode value = .ok default)
    (void : IsVoid Empty (Json.lastNamed name members)) :
    optionalField name default decode members = .ok default := by
  generalize here : Json.lastNamed name members = found at void
  rw [optionalField_of here]
  cases void with
  | absent => rfl
  | null => rw [Option.elim_some, null]; rfl
  | empty nothing => rw [Option.elim_some, empty _ nothing]; rfl

/-- Members as good as each other are read the same, down to their faults. -/
theorem optionalField_alike (null : decode .null = .ok default)
    (empty : ∀ value, Empty value → decode value = .ok default)
    (same : ∀ first second, Alike first second → decode first = decode second)
    (alike : MemberAlike Empty Alike (Json.lastNamed name members) (Json.lastNamed name others)) :
    optionalField name default decode members = optionalField name default decode others := by
  generalize first : Json.lastNamed name members = left at alike
  generalize second : Json.lastNamed name others = right at alike
  cases alike with
  | void nothing alsoNothing =>
      rw [← first] at nothing
      rw [← second] at alsoNothing
      rw [optionalField_void null empty nothing, optionalField_void null empty alsoNothing]
  | given alike =>
      rw [optionalField_of first, optionalField_of second, Option.elim_some, Option.elim_some,
        same _ _ alike]

end Document

namespace Image

namespace Manifest

variable {first second : Json String}

theorem digest_alike (alike : DescriptorAlike first second) : digest first = digest second := by
  cases alike with
  | same => rfl
  | object same => simp only [digest, Document.optionalField, same]

theorem itemsFrom_alike {items others : List (Json String)}
    (alike : List.Forall₂ DescriptorAlike items others) (position : Nat) :
    Document.Decoded.itemsFrom digest position items =
      Document.Decoded.itemsFrom digest position others := by
  induction alike generalizing position with
  | nil => rfl
  | cons here _ ih => simp only [Document.Decoded.itemsFrom, digest_alike here, ih]

theorem platformDigests_alike (alike : EntriesAlike first second) :
    platformDigests first = platformDigests second := by
  cases alike with
  | same => rfl
  | array entries => exact itemsFrom_alike entries 0

theorem configDigest_alike (alike : DescriptorAlike first second) :
    configDigest first = configDigest second := by
  cases alike with
  | same => rfl
  | object same => exact digest_alike (.object same)

theorem configDigest_digestless {value : Json String} (nothing : Digestless value) :
    configDigest value = .ok "" := by
  obtain ⟨members, rfl, absent⟩ := nothing
  exact Document.optionalField_of absent

/-- Manifests as good as each other are read the same. -/
theorem ofJson_alike (alike : Alike first second) : ofJson first = ofJson second := by
  cases alike with
  | same => rfl
  | @object members others parts =>
      have platforms : Document.optionalField "manifests" [] platformDigests members =
          Document.optionalField "manifests" [] platformDigests others := by
        refine Document.optionalField_alike rfl ?_ (fun _ _ => platformDigests_alike) parts.1
        rintro _ rfl
        rfl
      have config : Document.optionalField "config" "" configDigest members =
          Document.optionalField "config" "" configDigest others :=
        Document.optionalField_alike rfl (fun _ => configDigest_digestless)
          (fun _ _ => configDigest_alike) parts.2
      simp only [ofJson, platforms, config]

end Manifest

namespace Config

variable {first second : Json String}

/-- What is read of labels: none where the document gives none. -/
def given : Option Labels → Labels :=
  fun labels => labels.getD []

theorem container_labels (members : List (String × Json String)) :
    (container (.object members)).map given =
      Document.optionalField "Labels" [] (fun value => (labelMap value).map given) members :=
  Document.optionalField_map given

theorem container_alike (alike : ContainerAlike first second) :
    (container first).map given = (container second).map given := by
  cases alike with
  | same => rfl
  | object alike =>
      rw [container_labels, container_labels]
      refine Document.optionalField_alike rfl ?_ ?_ alike
      · rintro _ rfl
        rfl
      · rintro _ _ rfl
        rfl

theorem container_labelless {value : Json String} (nothing : Labelless value) :
    (container value).map given = .ok [] := by
  obtain ⟨members, rfl, void⟩ := nothing
  rw [container_labels]
  refine Document.optionalField_void rfl ?_ void
  rintro _ rfl
  rfl

/-- Image configs as good as each other have the same labels. -/
theorem ofJson_alike (alike : Alike first second) :
    (ofJson first).map labels = (ofJson second).map labels := by
  have read (members : List (String × Json String)) : (ofJson (.object members)).map labels =
      Document.optionalField "config" [] (fun value => (container value).map given) members := by
    have through : (ofJson (.object members)).map labels =
        (Document.optionalField "config" none container members).map given := by
      rw [ofJson]
      cases Document.optionalField "config" none container members <;> rfl
    exact through.trans (Document.optionalField_map given)
  cases alike with
  | same => rfl
  | object alike =>
      rw [read, read]
      exact Document.optionalField_alike rfl (fun _ => container_labelless)
        (fun _ _ => container_alike) alike

end Config

end Image

end ImageOwnership
