import ImageOwnership.Proofs.Image.Documents
import ImageOwnership.Proofs.WrittenDescriptor

/-!
Which JSON values are package descriptors, and what is wrong with those that are not. Each wrong member of
an object is told of, and nothing else is.
-/

namespace ImageOwnership

/-! ### Faults of parts -/

namespace Document.Decoded

variable {α β : Type} {decoded : Decoded α} {other : Decoded β} {Wrong Bad : Fault → Prop}

def faults : Decoded α → List Fault
  | .ok _ => []
  | .error faults => faults

theorem faults_pair (first : Decoded α) (second : Decoded β) :
    (first.pair second).faults = first.faults ++ second.faults := by
  cases first <;> cases second <;> simp [pair, faults]

/-- A part has a fault for each thing that is wrong with it, and without a fault it can be read. -/
structure Explained (decoded : Decoded α) (Wrong : Fault → Prop) : Prop where
  each : ∀ fault, fault ∈ decoded.faults ↔ Wrong fault
  sound : decoded.faults = [] → ∃ value, decoded = .ok value

namespace Explained

theorem ok (value : α) (nothing : ∀ fault, ¬ Wrong fault) : Explained (.ok value) Wrong where
  each := fun fault => ⟨nofun, fun wrong => absurd wrong (nothing fault)⟩
  sound := fun _ => ⟨value, rfl⟩

theorem flawed {flaw : Flaw} (only : ∀ fault, Wrong fault ↔ fault = ⟨[], flaw⟩) :
    (flawed flaw : Decoded α).Explained Wrong where
  each := fun fault => List.mem_singleton.trans (only fault).symm
  sound := nofun

theorem map (explained : decoded.Explained Wrong) (change : α → β) :
    Explained (decoded.map change) Wrong := by
  cases decoded with
  | ok value => exact ⟨explained.each, fun _ => ⟨change value, rfl⟩⟩
  | error faults =>
      refine ⟨explained.each, fun none => ?_⟩
      obtain ⟨_, impossible⟩ := explained.sound none
      cases impossible

theorem inside (explained : decoded.Explained Wrong) (step : Step) :
    (decoded.inside step).Explained fun fault => ∃ inner, Wrong inner ∧ inner.inside step = fault := by
  cases decoded with
  | ok value =>
      refine .ok value fun fault wrong => ?_
      obtain ⟨inner, wrong, _⟩ := wrong
      exact List.not_mem_nil ((explained.each inner).mpr wrong)
  | error faults =>
      refine ⟨fun fault => ?_, fun none => ?_⟩
      · simp only [← explained.each]
        exact List.mem_map
      · obtain ⟨_, impossible⟩ := explained.sound (List.map_eq_nil_iff.mp none)
        cases impossible

theorem pair (first : decoded.Explained Wrong) (second : other.Explained Bad) :
    (decoded.pair other).Explained fun fault => Wrong fault ∨ Bad fault where
  each := fun fault => by rw [faults_pair, List.mem_append, first.each, second.each]
  sound := by
    intro none
    rw [faults_pair, List.append_eq_nil_iff] at none
    obtain ⟨left, rfl⟩ := first.sound none.1
    obtain ⟨right, rfl⟩ := second.sound none.2
    exact ⟨(left, right), rfl⟩

theorem congr (explained : decoded.Explained Wrong) (same : ∀ fault, Wrong fault ↔ Bad fault) :
    decoded.Explained Bad where
  each := fun fault => (explained.each fault).trans (same fault)
  sound := explained.sound

end Explained

end Document.Decoded

/-! ### Values of members -/

namespace Document

/-- Values of one kind are read, and all others have one and the same flaw. -/
structure Distinguishes {α : Type} (decode : Json String → Decoded α) (Is : Json String → α → Prop)
    (flaw : Flaw) : Prop where
  ok : ∀ value read, decode value = .ok read ↔ Is value read
  explained : ∀ value,
    (decode value).Explained fun fault => (∀ read, ¬ Is value read) ∧ fault = ⟨[], flaw⟩

theorem string_distinguishes : Distinguishes string (fun value text => value = .string text) .notString where
  ok := by
    intro value text
    cases value with
    | string other => simp [string]
    | _ =>
        constructor
        · intro impossible
          cases impossible
        · intro impossible
          cases impossible
  explained := by
    intro value
    cases value with
    | string text => exact .ok text fun fault wrong => wrong.1 text rfl
    | _ => exact .flawed fun fault => by simp

end Document

namespace Package

theorem RegistryType.ofName?_eq_some_iff {text : String} {registryType : RegistryType} :
    ofName? text = some registryType ↔ text = registryType.name := by
  constructor
  · intro found
    have named : registryType.name = text := by simpa using List.find?_some found
    exact named.symm
  · intro same
    rw [same]
    exact ofName?_name registryType

theorem RegistryType.ofJson_distinguishes :
    Document.Distinguishes ofJson (fun value registryType => value = .string registryType.name)
      .unknownName where
  ok := by
    intro value registryType
    cases value with
    | string text =>
        simp only [ofJson, Json.string.injEq, ← ofName?_eq_some_iff]
        cases ofName? text with
        | none => simp [Document.Decoded.flawed]
        | some found => simp
    | _ =>
        constructor
        · intro impossible
          cases impossible
        · intro impossible
          cases impossible
  explained := by
    intro value
    cases value with
    | string text =>
        simp only [ofJson, Json.string.injEq, ← ofName?_eq_some_iff]
        cases ofName? text with
        | none => exact .flawed fun fault => by simp
        | some found => exact .ok found fun fault wrong => wrong.1 found rfl
    | _ => exact .flawed fun fault => by simp

namespace Descriptor

/-! ### Members under several names -/

/-- Where a member that has several names is given, and its value there: the first name that is given
counts. -/
inductive Given (members : List (String × Json String)) :
    List String → Option (String × Json String) → Prop where
  | absent {names : List String} (unnamed : ∀ name ∈ names, Json.lastNamed name members = none) :
      Given members names none
  | under {before after : List String} {name : String} {value : Json String}
      (unnamed : ∀ earlier ∈ before, Json.lastNamed earlier members = none)
      (last : Json.lastNamed name members = some value) :
      Given members (before ++ name :: after) (some (name, value))

variable {members : List (String × Json String)}

theorem given?_eq_iff {names : List String} {found : Option (String × Json String)} :
    given? names members = found ↔ Given members names found := by
  constructor
  · intro same
    subst found
    cases given : given? names members with
    | none =>
        refine .absent fun name member => ?_
        simpa using List.findSome?_eq_none_iff.mp given name member
    | some member =>
        obtain ⟨before, name, after, rfl, here, unnamed⟩ := List.findSome?_eq_some_iff.mp given
        obtain ⟨value, last, rfl⟩ := Option.map_eq_some_iff.mp here
        exact .under (fun earlier inside => by simpa using unnamed earlier inside) last
  · intro given
    cases given with
    | absent unnamed =>
        refine List.findSome?_eq_none_iff.mpr fun name member => ?_
        simp [unnamed name member]
    | under unnamed last =>
        refine List.findSome?_eq_some_iff.mpr ⟨_, _, _, rfl, by simp [last], fun earlier inside => ?_⟩
        simp [unnamed earlier inside]

section Fields

variable {α : Type} {decode : Json String → Document.Decoded α} {Is : Json String → α → Prop}
  {flaw : Document.Flaw}

theorem required_eq_ok (distinguishes : Document.Distinguishes decode Is flaw) {name : String}
    {others : List String} {read : α} :
    required name others decode members = .ok read ↔
      ∃ found value, Given members (name :: others) (some (found, value)) ∧ Is value read := by
  simp only [← given?_eq_iff, required, ← distinguishes.ok]
  cases given? (name :: others) members with
  | none => simp [Document.Decoded.flawed, Document.Decoded.inside]
  | some member =>
      obtain ⟨found, value⟩ := member
      simp [Document.Decoded.inside_eq_ok]

theorem required_explained (distinguishes : Document.Distinguishes decode Is flaw) (name : String)
    (others : List String) (members : List (String × Json String)) :
    (required name others decode members).Explained fun fault =>
      Given members (name :: others) none ∧ fault = ⟨[.field name], .absent⟩ ∨
        ∃ found value, Given members (name :: others) (some (found, value)) ∧
          (∀ read, ¬ Is value read) ∧ fault = ⟨[.field found], flaw⟩ := by
  simp only [← given?_eq_iff, required]
  cases given? (name :: others) members with
  | none =>
      have missing : (Document.Decoded.flawed .absent : Document.Decoded α).Explained
          fun fault => fault = ⟨[], .absent⟩ := .flawed fun fault => Iff.rfl
      refine (missing.inside (.field name)).congr fun fault => ?_
      simp [Document.Fault.inside, eq_comm]
  | some member =>
      obtain ⟨found, value⟩ := member
      refine ((distinguishes.explained value).inside (.field found)).congr fun fault => ?_
      simp [Document.Fault.inside, eq_comm]

end Fields

theorem baseUrl_eq_ok {url : String} :
    baseUrl members = .ok url ↔
      Given members ["registryBaseUrl", "registry_base_url"] none ∧ url = "" ∨
        ∃ found value, Given members ["registryBaseUrl", "registry_base_url"] (some (found, value)) ∧
          value = .string url := by
  simp only [← given?_eq_iff, baseUrl, ← Document.string_distinguishes.ok]
  cases given? ["registryBaseUrl", "registry_base_url"] members with
  | none => simp [eq_comm]
  | some member =>
      obtain ⟨found, value⟩ := member
      simp [Document.Decoded.inside_eq_ok]

theorem baseUrl_explained (members : List (String × Json String)) :
    (baseUrl members).Explained fun fault =>
      ∃ found value, Given members ["registryBaseUrl", "registry_base_url"] (some (found, value)) ∧
        (∀ text, value ≠ .string text) ∧ fault = ⟨[.field found], .notString⟩ := by
  simp only [← given?_eq_iff, baseUrl]
  cases given? ["registryBaseUrl", "registry_base_url"] members with
  | none => exact .ok "" fun fault => by simp
  | some member =>
      obtain ⟨found, value⟩ := member
      refine ((Document.string_distinguishes.explained value).inside (.field found)).congr fun fault => ?_
      simp [Document.Fault.inside, eq_comm]

/-! ### Descriptors -/

/-- A member with this value is given under one of the names. -/
def Gives (members : List (String × Json String)) (names : List String) (value : Json String) : Prop :=
  ∃ name, Given members names (some (name, value))

/-- The JSON values that are descriptors, and what they describe. -/
inductive Describes : Json String → Descriptor → Prop where
  | object {members : List (String × Json String)} {descriptor : Descriptor}
      (registryType : Gives members ["registryType", "registry_type"]
        (.string descriptor.registryType.name))
      (registryBaseUrl :
        Given members ["registryBaseUrl", "registry_base_url"] none ∧ descriptor.registryBaseUrl = "" ∨
          Gives members ["registryBaseUrl", "registry_base_url"] (.string descriptor.registryBaseUrl))
      (identifier : Gives members ["identifier"] (.string descriptor.identifier))
      (version : Gives members ["version"] (.string descriptor.version)) :
      Describes (.object members) descriptor

/-- What is wrong with the members of an object that is to be a descriptor. -/
inductive Wrong (members : List (String × Json String)) : Document.Fault → Prop where
  | absent {name : String} {others : List String}
      (required : name :: others ∈ [["registryType", "registry_type"], ["identifier"], ["version"]])
      (absent : Given members (name :: others) none) : Wrong members ⟨[.field name], .absent⟩
  | unknownName {name : String} {value : Json String}
      (given : Given members ["registryType", "registry_type"] (some (name, value)))
      (unknown : ∀ registryType : RegistryType, value ≠ .string registryType.name) :
      Wrong members ⟨[.field name], .unknownName⟩
  | notString {names : List String} {name : String} {value : Json String}
      (textual : names ∈ [["registryBaseUrl", "registry_base_url"], ["identifier"], ["version"]])
      (given : Given members names (some (name, value))) (other : ∀ text, value ≠ .string text) :
      Wrong members ⟨[.field name], .notString⟩

theorem ofJson_eq_ok {value : Json String} {descriptor : Descriptor} :
    ofJson value = .ok descriptor ↔ Describes value descriptor := by
  cases value with
  | object members =>
      simp only [ofJson, Document.Decoded.map_eq_ok, Document.Decoded.pair_eq_ok, baseUrl_eq_ok,
        required_eq_ok RegistryType.ofJson_distinguishes, required_eq_ok Document.string_distinguishes]
      constructor
      · intro read
        obtain ⟨⟨⟨registryType, url⟩, identifier, version⟩, ⟨⟨typed, located⟩, named, tagged⟩, rfl⟩ := read
        simp only at typed located named tagged
        obtain ⟨_, _, type, rfl⟩ := typed
        obtain ⟨_, _, name, rfl⟩ := named
        obtain ⟨_, _, tag, rfl⟩ := tagged
        refine .object ⟨_, type⟩ ?_ ⟨_, name⟩ ⟨_, tag⟩
        obtain absent | ⟨found, _, given, rfl⟩ := located
        · exact .inl absent
        · exact .inr ⟨found, given⟩
      · intro describes
        cases describes with
        | object registryType registryBaseUrl identifier version =>
            obtain ⟨_, type⟩ := registryType
            obtain ⟨_, name⟩ := identifier
            obtain ⟨_, tag⟩ := version
            refine ⟨((descriptor.registryType, descriptor.registryBaseUrl), descriptor.identifier,
              descriptor.version), ⟨⟨⟨_, _, type, rfl⟩, ?_⟩, ⟨_, _, name, rfl⟩, ⟨_, _, tag, rfl⟩⟩, rfl⟩
            obtain absent | ⟨found, given⟩ := registryBaseUrl
            · exact .inl absent
            · exact .inr ⟨found, _, given, rfl⟩
  | _ =>
      constructor
      · intro impossible
        cases impossible
      · intro impossible
        cases impossible

/-- The faults of an object are the wrong members of a descriptor in it. -/
theorem ofJson_explained (members : List (String × Json String)) :
    (ofJson (.object members)).Explained (Wrong members) := by
  have registryType :=
    required_explained RegistryType.ofJson_distinguishes "registryType" ["registry_type"] members
  have identifier := required_explained Document.string_distinguishes "identifier" [] members
  have version := required_explained Document.string_distinguishes "version" [] members
  refine (((registryType.pair (baseUrl_explained members)).pair (identifier.pair version)).map _).congr
    fun fault => ?_
  constructor
  · intro wrong
    obtain ((⟨absent, rfl⟩ | ⟨_, _, given, other, rfl⟩) | ⟨_, _, given, other, rfl⟩) |
      (⟨absent, rfl⟩ | ⟨_, _, given, other, rfl⟩) | (⟨absent, rfl⟩ | ⟨_, _, given, other, rfl⟩) := wrong
    · exact .absent (by simp) absent
    · exact .unknownName given other
    · exact .notString (by simp) given other
    · exact .absent (by simp) absent
    · exact .notString (by simp) given other
    · exact .absent (by simp) absent
    · exact .notString (by simp) given other
  · intro wrong
    cases wrong with
    | absent required absent =>
        simp only [List.mem_cons, List.cons.injEq, List.not_mem_nil, or_false] at required
        obtain ⟨rfl, rfl⟩ | ⟨rfl, rfl⟩ | ⟨rfl, rfl⟩ := required
        · exact .inl (.inl (.inl ⟨absent, rfl⟩))
        · exact .inr (.inl (.inl ⟨absent, rfl⟩))
        · exact .inr (.inr (.inl ⟨absent, rfl⟩))
    | unknownName given unknown => exact .inl (.inl (.inr ⟨_, _, given, unknown, rfl⟩))
    | notString textual given other =>
        simp only [List.mem_cons, List.not_mem_nil, or_false] at textual
        obtain rfl | rfl | rfl := textual
        · exact .inl (.inr ⟨_, _, given, other, rfl⟩)
        · exact .inr (.inl (.inr ⟨_, _, given, other, rfl⟩))
        · exact .inr (.inr (.inr ⟨_, _, given, other, rfl⟩))

end Descriptor

end Package

end ImageOwnership
