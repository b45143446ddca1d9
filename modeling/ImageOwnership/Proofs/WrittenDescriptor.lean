import ImageOwnership.Command.Check
import ImageOwnership.Http.Script
import ImageOwnership.Proofs.Json.Literals

/-!
Descriptors in files. However the members of a descriptor are written and in whatever order, and
whatever other members stand among them, the descriptor is read; the check of a package is then the check
of its image.
-/

namespace ImageOwnership

section Members

variable {Text Value : Type} [DecidableEq Text] {name : Text} {value : Value}
  {members : List (Text × Value)}

theorem Json.mem_of_lastNamed (found : lastNamed name members = some value) :
    (name, value) ∈ members := by
  induction members with
  | nil => cases found
  | cons member rest ih =>
      obtain ⟨key, first⟩ := member
      rw [lastNamed] at found
      split at found
      · rename_i later
        cases found
        exact List.mem_cons_of_mem _ (ih later)
      · split at found
        · rename_i same
          cases found
          rw [same]
          exact List.mem_cons_self
        · cases found

theorem Json.lastNamed_ne_none (given : name ∈ members.map Prod.fst) :
    lastNamed name members ≠ none := by
  induction members with
  | nil => simp at given
  | cons member rest ih =>
      obtain ⟨key, first⟩ := member
      rw [lastNamed]
      split
      · simp
      · rename_i unnamed
        rw [List.map_cons, List.mem_cons] at given
        obtain rfl | later := given
        · simp
        · exact absurd unnamed (ih later)

end Members

namespace Package

theorem RegistryType.ofName?_name (registryType : RegistryType) :
    ofName? registryType.name = some registryType := by
  cases registryType <;> decide

namespace Descriptor

def names : List String :=
  ["registryType", "registryBaseUrl", "identifier", "version"]

/-- The members of a descriptor, under the first of their names. -/
def members (descriptor : Descriptor) : List (String × String) :=
  names.zip [descriptor.registryType.name, descriptor.registryBaseUrl, descriptor.identifier,
    descriptor.version]

/-- A text in a file, and the member that it is. -/
inductive WritesPart (descriptor : Descriptor) : List Char × String × Json String → Prop where
  | known {name value : String} {text : List Char} (own : (name, value) ∈ descriptor.members)
      (spells : Json.SpellsMember name value text) :
      WritesPart descriptor (text, name, .string value)
  | unknown {name : String} {value : Json String} {text : List Char} (foreign : name ∉ names)
      (stands : Json.StandsFor text (name, value)) : WritesPart descriptor (text, name, value)

/-- A text that writes a descriptor. -/
inductive Writes (descriptor : Descriptor) : List Char → Prop where
  | object {front back : List Char} {parts : List (List Char × String × Json String)}
      (before : Json.IsBlank front) (behind : Json.IsBlank back)
      (each : ∀ part ∈ parts, WritesPart descriptor part)
      (complete : ∀ name ∈ names, ∃ part ∈ parts, part.2.1 = name) :
      Writes descriptor
        (front ++ '\x7b' :: ([','].intercalate (parts.map Prod.fst) ++ '\x7d' :: back))

variable {descriptor : Descriptor} {text : List Char}

theorem WritesPart.standsFor {part : List Char × String × Json String}
    (writes : WritesPart descriptor part) : Json.StandsFor part.1 part.2 := by
  cases writes with
  | known own spells => exact spells.standsFor
  | unknown foreign stands => exact stands

theorem members_unique {name value other : String} (own : (name, value) ∈ descriptor.members)
    (also : (name, other) ∈ descriptor.members) : value = other := by
  simp only [members, names, List.zip_cons_cons, List.zip_nil_right, List.mem_cons, Prod.mk.injEq,
    List.not_mem_nil, or_false] at own also
  rcases own with ⟨rfl, rfl⟩ | ⟨rfl, rfl⟩ | ⟨rfl, rfl⟩ | ⟨rfl, rfl⟩ <;> simpa [eq_comm] using also

/-- Among the parts each member of the descriptor is found with its value. -/
theorem lastNamed_parts {parts : List (List Char × String × Json String)}
    (each : ∀ part ∈ parts, WritesPart descriptor part)
    (complete : ∀ name ∈ names, ∃ part ∈ parts, part.2.1 = name) {name value : String}
    (own : (name, value) ∈ descriptor.members) :
    Json.lastNamed name (parts.map Prod.snd) = some (.string value) := by
  have known : name ∈ names := (List.of_mem_zip own).1
  obtain ⟨part, member, rfl⟩ := complete name known
  have given : part.2.1 ∈ (parts.map Prod.snd).map Prod.fst := by
    simpa using ⟨_, _, member⟩
  obtain ⟨found, last⟩ := Option.ne_none_iff_exists'.mp (Json.lastNamed_ne_none given)
  obtain ⟨⟨text, key, _⟩, inParts, same⟩ := List.mem_map.mp (Json.mem_of_lastNamed last)
  cases same
  rw [last]
  cases each _ inParts with
  | known also _ => rw [members_unique own also]
  | unknown foreign _ => exact absurd known foreign

theorem Writes.read (writes : descriptor.Writes text) :
    Descriptor.read (Utf8.encode text) = .ok descriptor := by
  cases writes with
  | @object front back parts before behind each complete =>
      have nonempty : parts ≠ [] := by
        rintro rfl
        obtain ⟨_, impossible, _⟩ := complete "version" (by decide)
        cases impossible
      have decoded := Json.decode?_object nonempty (fun part member => (each part member).standsFor)
        (by simpa using before.isBlank) (by simpa using behind.isBlank)
      have found : ∀ member ∈ descriptor.members,
          Json.lastNamed member.1 (parts.map Prod.snd) = some (.string member.2) :=
        fun member own => lastNamed_parts each complete own
      simp only [members, names, List.zip_cons_cons, List.zip_nil_right, List.forall_mem_cons] at found
      obtain ⟨registryType, registryBaseUrl, identifier, version, _⟩ := found
      rw [Descriptor.read, Document.read, decoded]
      simp only [ofJson, required, baseUrl, given?, List.findSome?_cons, registryType,
        registryBaseUrl, identifier, version, Option.map_some, RegistryType.ofJson,
        RegistryType.ofName?_name, Document.string]
      rfl

end Descriptor

end Package

/-! ### Checks of packages -/

namespace Command

open Http

variable {World : Type} {surroundings : Surroundings}

/-- Tasks with one descriptor and one owner are checked alike. -/
theorem perform_congr {task other : Task}
    (descriptor : task.descriptor surroundings = other.descriptor surroundings)
    (owner : task.owner = other.owner) (transport : Transport World) (verbose : Bool) (world : World) :
    perform transport surroundings ⟨verbose, task⟩ world =
      perform transport surroundings ⟨verbose, other⟩ world := by
  have claim : task.claim = other.claim := by
    funext found settings
    rw [Task.claim, Task.claim, owner]
  simp only [perform, check, descriptor, owner, claim]

theorem descriptor_written {path owner : String} {descriptor : Package.Descriptor} {text : List Char}
    (content : surroundings.contentAt (Path.normalize path) = .ok (Utf8.encode text))
    (writes : descriptor.Writes text) :
    (Task.package path owner).descriptor surroundings = .ok descriptor := by
  simp only [Task.descriptor, Task.descriptorIn, content, Utf8.decode_encode, writes.read,
    Result.mapError_ok, Result.ok_bind]

/-- The check of a package is the check of the image that is written in its file, whatever the
surroundings are apart from the file and whatever the network does. -/
theorem perform_package {path owner identifier version registryBaseUrl : String} {text : List Char}
    (content : surroundings.contentAt (Path.normalize path) = .ok (Utf8.encode text))
    (writes : (⟨.oci, registryBaseUrl, identifier, version⟩ : Package.Descriptor).Writes text)
    (transport : Transport World) (verbose : Bool) (world : World) :
    perform transport surroundings ⟨verbose, .package path owner⟩ world =
      perform transport surroundings ⟨verbose, .image identifier owner version registryBaseUrl⟩
        world := by
  have same : (Task.package path owner).descriptor surroundings =
      (Task.image identifier owner version registryBaseUrl).descriptor surroundings :=
    descriptor_written content writes
  exact perform_congr same rfl transport verbose world

/-- A member without blanks. -/
def compact (key literal : String) : List Char :=
  '"' :: (key.toList ++ '"' :: ':' :: '"' :: (literal.toList ++ ['"']))

theorem compact_spells {name value key literal : String}
    (named : Json.Spells key.toList name.toList) (valued : Json.Spells literal.toList value.toList) :
    Json.SpellsMember name value (compact key literal) := by
  have blank : Json.IsBlank [] := by simp [Json.IsBlank]
  exact .member blank blank blank blank named valued

/-- The members of a file in another order, with escapes and with a member that is of no use. -/
def sampleParts : List (List Char × String × Json String) :=
  [(compact "version" "1", "version", .string "1"),
    (compact "title" "A server", "title", .string "A server"),
    (compact "identifier" "me\\/server", "identifier", .string "me/server"),
    (compact "registryType" "\\u006fci", "registryType", .string "oci"),
    (compact "registryBaseUrl" "https://ghcr.io", "registryBaseUrl", .string "https://ghcr.io")]

def sampleText : List Char :=
  ['\n'] ++ '\x7b' :: ([','].intercalate (sampleParts.map Prod.fst) ++ '\x7d' :: [' '])

theorem sampleText_writes :
    (⟨.oci, "https://ghcr.io", "me/server", "1"⟩ : Package.Descriptor).Writes sampleText := by
  have slash : Json.Spells "me\\/server".toList "me/server".toList :=
    .plain (by decide) (by decide) (by decide) <| .plain (by decide) (by decide) (by decide) <|
      .escape (by decide) (.self (by decide))
  have digits : Json.HexUnit ['0', '0', '6', 'f'] 'o'.toNat :=
    show Json.HexUnit _ (((0 * 16 + 0) * 16 + 6) * 16 + 15) from
      .digits ⟨by decide, .inl rfl⟩ ⟨by decide, .inl rfl⟩ ⟨by decide, .inl rfl⟩ ⟨by decide, .inl rfl⟩
  have tail : Json.Spells ['c', 'i'] ['c', 'i'] := .self (by decide)
  have letter : Json.Spells "\\u006fci".toList "oci".toList := .unit digits tail
  refine .object (by simp [Json.IsBlank]) (by simp [Json.IsBlank]) ?_ ?_
  · simp only [sampleParts, List.forall_mem_cons]
    refine ⟨.known (by decide) (compact_spells ?_ ?_),
      .unknown (by decide) (compact_spells ?_ ?_).standsFor,
      .known (by decide) (compact_spells ?_ slash), .known (by decide) (compact_spells ?_ letter),
      .known (by decide) (compact_spells ?_ ?_), nofun⟩
    all_goals exact .self (by decide)
  · decide

def sampleSurroundings : Surroundings where
  environment _ := none
  contentAt _ := .ok (Utf8.encode sampleText)

theorem perform_sample :
    perform Script.transport sampleSurroundings ⟨false, .package "package.json" "me/server"⟩
        { entries := [{ answer := .ok ⟨404, none, []⟩ }] } =
      perform Script.transport sampleSurroundings
        ⟨false, .image "me/server" "me/server" "1" "https://ghcr.io"⟩
        { entries := [{ answer := .ok ⟨404, none, []⟩ }] } :=
  perform_package rfl sampleText_writes Script.transport false _

end Command

end ImageOwnership
