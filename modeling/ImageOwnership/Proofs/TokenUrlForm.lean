import ImageOwnership.Failure
import ImageOwnership.Proofs.Settings.Check
import ImageOwnership.Proofs.Text.Trim

/-!
Which addresses of the token service are accepted. The form of an address is told by rules: a scheme, a
host, and perhaps a port and a path on one line. Every text of that form is accepted, and so is one with a
line feed after it.
-/

namespace ImageOwnership.Settings

namespace TokenUrl

/-! ### The form of an address -/

def IsDigitMark (char : Char) : Prop :=
  '0' ≤ char ∧ char ≤ '9'

/-- A letter or a digit of ASCII, a dot or a hyphen. -/
def IsHostMark (char : Char) : Prop :=
  'a' ≤ char ∧ char ≤ 'z' ∨ 'A' ≤ char ∧ char ≤ 'Z' ∨ IsDigitMark char ∨ char = '.' ∨ char = '-'

inductive IsScheme : List Char → Prop where
  | plain : IsScheme "http://".toList
  | secure : IsScheme "https://".toList

structure IsHost (text : List Char) : Prop where
  some : text ≠ []
  marks : ∀ char ∈ text, IsHostMark char

inductive IsPort : List Char → Prop where
  | absent : IsPort []
  | number {digits : List Char} (some : digits ≠ []) (marks : ∀ digit ∈ digits, IsDigitMark digit) :
      IsPort (':' :: digits)

inductive IsPath : List Char → Prop where
  | absent : IsPath []
  | rooted {path : List Char} (oneLine : '\n' ∉ path) : IsPath ('/' :: path)

/-- The texts that are addresses by their form. -/
inductive HasForm : List Char → Prop where
  | parts {scheme host port path : List Char} (isScheme : IsScheme scheme) (isHost : IsHost host)
      (isPort : IsPort port) (isPath : IsPath path) : HasForm (scheme ++ (host ++ (port ++ path)))

/-- What may stand after an address. -/
inductive IsTail : List Char → Prop where
  | absent : IsTail []
  | lineFeed : IsTail ['\n']

/-! ### Marks -/

theorem isDigit_iff {char : Char} : char.isDigit = true ↔ IsDigitMark char := by
  simp [Char.isDigit, IsDigitMark, Char.le_def]

theorem isAlpha_iff {char : Char} :
    char.isAlpha = true ↔ 'A' ≤ char ∧ char ≤ 'Z' ∨ 'a' ≤ char ∧ char ≤ 'z' := by
  change (decide ('A'.val ≤ char.val ∧ char.val ≤ 'Z'.val) ||
    (decide ('a'.val ≤ char.val) && decide (char.val ≤ 'z'.val))) = true ↔ _
  simp [Char.le_def]

theorem isHostChar_iff {char : Char} : isHostChar char = true ↔ IsHostMark char := by
  simp only [isHostChar, Char.isAlphanum, Bool.or_eq_true, decide_eq_true_eq, isAlpha_iff, isDigit_iff,
    IsHostMark, or_assoc]
  exact or_left_comm

theorem lineFeed_not_isHostMark : ¬ IsHostMark '\n' := by
  rw [← isHostChar_iff]
  decide

theorem lineFeed_not_isDigitMark : ¬ IsDigitMark '\n' := by
  rw [← isDigit_iff]
  decide

theorem IsScheme.oneLine {text : List Char} (isScheme : IsScheme text) : '\n' ∉ text := by
  cases isScheme with
  | plain => decide
  | secure => decide

theorem IsHost.oneLine {text : List Char} (isHost : IsHost text) : '\n' ∉ text :=
  fun member => lineFeed_not_isHostMark (isHost.marks _ member)

theorem IsPort.oneLine {text : List Char} (isPort : IsPort text) : '\n' ∉ text := by
  cases isPort with
  | absent => exact List.not_mem_nil
  | number _ marks =>
      intro member
      cases member with
      | tail _ later => exact lineFeed_not_isDigitMark (marks _ later)

theorem IsPath.oneLine {text : List Char} (isPath : IsPath text) : '\n' ∉ text := by
  cases isPath with
  | absent => exact List.not_mem_nil
  | rooted oneLine =>
      intro member
      cases member with
      | tail _ later => exact oneLine later

theorem HasForm.oneLine {text : List Char} (form : HasForm text) : '\n' ∉ text := by
  cases form with
  | parts isScheme isHost isPort isPath =>
      simp [isScheme.oneLine, isHost.oneLine, isPort.oneLine, isPath.oneLine]

/-! ### Reading an address -/

theorem afterScheme?_eq_some_iff {text rest : List Char} :
    afterScheme? text = some rest ↔ ∃ scheme, IsScheme scheme ∧ text = scheme ++ rest := by
  constructor
  · intro read
    unfold afterScheme? at read
    split at read
    · cases read
      exact ⟨_, .plain, rfl⟩
    · cases read
      exact ⟨_, .secure, rfl⟩
    · cases read
  · rintro ⟨scheme, isScheme, rfl⟩
    cases isScheme with
    | plain => rfl
    | secure => rfl

theorem isEnd_iff {text : List Char} : isEnd text = true ↔ IsTail text := by
  constructor
  · intro ends
    simp only [isEnd, Bool.or_eq_true, decide_eq_true_eq] at ends
    obtain rfl | rfl := ends
    · exact .absent
    · exact .lineFeed
  · intro tail
    cases tail with
    | absent => rfl
    | lineFeed => rfl

theorem endsWell_iff {text : List Char} :
    endsWell text = true ↔ ∃ path tail, IsPath path ∧ IsTail tail ∧ text = path ++ tail := by
  constructor
  · intro ends
    unfold endsWell at ends
    split at ends
    · rename_i path
      have oneLine : '\n' ∉ path.takeWhile (· ≠ '\n') := by
        intro member
        simpa using List.mem_takeWhile_imp member
      refine ⟨'/' :: path.takeWhile (· ≠ '\n'), _, .rooted oneLine, isEnd_iff.mp ends, ?_⟩
      rw [List.cons_append, List.takeWhile_append_dropWhile]
    · exact ⟨[], text, .absent, isEnd_iff.mp ends, rfl⟩
  · rintro ⟨path, tail, isPath, isTail, rfl⟩
    cases isPath with
    | absent =>
        cases isTail with
        | absent => rfl
        | lineFeed => rfl
    | @rooted path oneLine =>
        have kept : ∀ char ∈ path, decide (char ≠ '\n') = true := by
          intro char member
          exact decide_eq_true fun same => oneLine (same ▸ member)
        have stops : ∀ char, tail.head? = some char → decide (char ≠ '\n') = false := by
          cases isTail with
          | absent => nofun
          | lineFeed => simp
        rw [List.cons_append, endsWell, (span_stretch kept stops).2]
        exact isEnd_iff.mpr isTail

theorem head_of_endsWell {rest : List Char} (ends : endsWell rest = true) {char : Char}
    (first : rest.head? = some char) : char = '/' ∨ char = '\n' := by
  obtain ⟨path, tail, isPath, isTail, rfl⟩ := endsWell_iff.mp ends
  cases isPath with
  | absent =>
      cases isTail with
      | absent => cases first
      | lineFeed => exact .inr (Option.some.inj first).symm
  | rooted => exact .inl (Option.some.inj first).symm

theorem afterPort_portless {rest : List Char} (ends : endsWell rest = true) :
    afterPort rest = rest := by
  unfold afterPort
  split
  · obtain colon | colon := head_of_endsWell ends rfl
    · exact absurd colon (by decide)
    · exact absurd colon (by decide)
  · rfl

theorem endsWell_afterPort_iff {text : List Char} :
    endsWell (afterPort text) = true ↔
      ∃ port rest, IsPort port ∧ endsWell rest = true ∧ text = port ++ rest := by
  constructor
  · intro ends
    unfold afterPort at ends
    split at ends
    · rename_i rest
      split at ends
      · exact ⟨[], _, .absent, ends, rfl⟩
      · rename_i some
        refine ⟨':' :: rest.takeWhile Char.isDigit, _, .number ?_ ?_, ends, ?_⟩
        · simpa using some
        · intro digit member
          exact isDigit_iff.mp (List.mem_takeWhile_imp member)
        · rw [List.cons_append, List.takeWhile_append_dropWhile]
    · exact ⟨[], text, .absent, ends, rfl⟩
  · rintro ⟨port, rest, isPort, ends, rfl⟩
    cases isPort with
    | absent => rwa [List.nil_append, afterPort_portless ends]
    | @number digits some marks =>
        have kept : ∀ digit ∈ digits, digit.isDigit = true := fun digit member =>
          isDigit_iff.mpr (marks digit member)
        have stops : ∀ char, rest.head? = .some char → char.isDigit = false := by
          intro char first
          obtain rfl | rfl := head_of_endsWell ends first
          · decide
          · decide
        obtain ⟨taken, left⟩ := span_stretch kept stops
        rw [List.cons_append, afterPort, taken, left]
        simpa [some] using ends

theorem head_of_port {port rest : List Char} (isPort : IsPort port) (ends : endsWell rest = true)
    {char : Char} (first : (port ++ rest).head? = some char) : isHostChar char = false := by
  cases isPort with
  | absent =>
      obtain rfl | rfl := head_of_endsWell ends first
      · decide
      · decide
  | number =>
      cases Option.some.inj first
      decide

theorem isWellFormed_iff {text : List Char} :
    isWellFormed text = true ↔
      ∃ address tail, HasForm address ∧ IsTail tail ∧ text = address ++ tail := by
  constructor
  · intro formed
    unfold isWellFormed at formed
    split at formed
    · cases formed
    · rename_i rest read
      obtain ⟨scheme, isScheme, rfl⟩ := afterScheme?_eq_some_iff.mp read
      simp only [Bool.and_eq_true, Bool.not_eq_true', List.isEmpty_eq_false_iff] at formed
      obtain ⟨some, ends⟩ := formed
      obtain ⟨port, others, isPort, ends, split⟩ := endsWell_afterPort_iff.mp ends
      obtain ⟨path, tail, isPath, isTail, rfl⟩ := endsWell_iff.mp ends
      have isHost : IsHost (rest.takeWhile isHostChar) :=
        ⟨some, fun char member => isHostChar_iff.mp (List.mem_takeWhile_imp member)⟩
      refine ⟨_, tail, .parts isScheme isHost isPort isPath, isTail, ?_⟩
      rw [List.append_assoc, List.append_assoc, List.append_assoc, ← split,
        List.takeWhile_append_dropWhile]
  · rintro ⟨address, tail, ⟨isScheme, isHost, isPort, isPath⟩, isTail, rfl⟩
    -- From the back: no part begins with a mark that the part before it could take.
    rename_i scheme host port path
    have ends : endsWell (path ++ tail) = true := endsWell_iff.mpr ⟨path, tail, isPath, isTail, rfl⟩
    have kept : ∀ char ∈ host, isHostChar char = true := fun char member =>
      isHostChar_iff.mpr (isHost.marks char member)
    obtain ⟨taken, left⟩ := span_stretch kept fun char => head_of_port isPort ends
    have read : afterScheme? (scheme ++ (host ++ (port ++ path)) ++ tail) =
        some (host ++ (port ++ (path ++ tail))) := by
      refine afterScheme?_eq_some_iff.mpr ⟨scheme, isScheme, ?_⟩
      simp
    have ported : endsWell (afterPort (port ++ (path ++ tail))) = true :=
      endsWell_afterPort_iff.mpr ⟨port, _, isPort, ends, rfl⟩
    unfold isWellFormed
    rw [read]
    simp [taken, left, ported, isHost.some]

/-- What is accepted as an address: a text of the form, or one with a line feed after it. -/
def IsAccepted (url : String) : Prop :=
  HasForm url.toList ∨ ∃ address : String, HasForm address.toList ∧ url = address ++ "\n"

theorem isWellFormed_toList_iff {url : String} :
    isWellFormed url.toList = true ↔ IsAccepted url := by
  rw [isWellFormed_iff]
  constructor
  · rintro ⟨address, tail, form, isTail, split⟩
    cases isTail with
    | absent => exact .inl (by simpa [split] using form)
    | lineFeed =>
        refine .inr ⟨String.ofList address, by simpa using form, ?_⟩
        apply String.toList_inj.mp
        simp [split]
  · rintro (form | ⟨address, form, rfl⟩)
    · exact ⟨url.toList, [], form, .absent, by simp⟩
    · exact ⟨address.toList, ['\n'], form, .lineFeed, by simp⟩

/-- The form is what an accepted text has unless there is a line feed in it. -/
theorem IsAccepted.oneLine_iff {url : String} (accepted : IsAccepted url) :
    '\n' ∉ url.toList ↔ HasForm url.toList := by
  constructor
  · intro oneLine
    obtain form | ⟨address, _, rfl⟩ := accepted
    · exact form
    · exact absurd (by simp) oneLine
  · exact HasForm.oneLine

end TokenUrl

namespace Draft

open TokenUrl

/-- What a draft gives besides the address of the token service is accepted. -/
structure OtherwiseValid (draft : Draft) : Prop where
  lasting : draft.timeout.atMostZero = false
  counted : 0 ≤ draft.retries
  named : ∃ agent, draft.userAgent = some agent ∧ agent ≠ ""

def withTokenUrl (url : String) (draft : Draft) : Draft :=
  { draft with tokenUrl := some url }

variable {draft : Draft} {url : String} {settings : Settings}

theorem accepted_of_check (checked : (draft.withTokenUrl url).check = .ok settings) :
    draft.OtherwiseValid ∧ IsAccepted url := by
  have passes := passes_of_check checked
  refine ⟨⟨passes.lasting, ?_, _, passes.userAgent, passes.named⟩, ?_⟩
  · have counted : (settings.retries : Int) = draft.retries := passes.retries
    omega
  · rw [← isWellFormed_toList_iff, Option.some.inj passes.tokenUrl]
    exact passes.wellFormed

theorem check_of_otherwiseValid (valid : draft.OtherwiseValid) :
    (∃ settings, (draft.withTokenUrl url).check = .ok settings) ∧ IsAccepted url ∨
      (draft.withTokenUrl url).check = .error (.badTokenUrl (some url)) ∧ ¬ IsAccepted url := by
  obtain ⟨settings, checked, _⟩ | ⟨fault, failed, fails⟩ := check_cases (draft.withTokenUrl url)
  · exact .inl ⟨⟨settings, checked⟩, (accepted_of_check checked).2⟩
  · obtain ⟨lasting, counted, agent, given, named⟩ := valid
    cases fails with
    | timeout short => exact absurd (short.symm.trans lasting) (by decide)
    | retries _ negative => exact absurd counted (Int.not_le.mpr negative)
    | userAgent _ _ unnamed =>
        obtain none | empty := unnamed
        · cases given.symm.trans none
        · cases given.symm.trans empty
          exact absurd rfl named
    | tokenUrl _ _ _ _ malformed =>
        refine .inr ⟨failed, ?_⟩
        rw [← isWellFormed_toList_iff, malformed url rfl]
        decide

/-- Which addresses of the token service a draft passes with. -/
structure ChecksTokenUrl (draft : Draft) (url : String) : Prop where
  accepts : (∃ settings, (draft.withTokenUrl url).check = .ok settings) ↔
    draft.OtherwiseValid ∧ IsAccepted url
  rejects : draft.OtherwiseValid → ¬ IsAccepted url →
    (draft.withTokenUrl url).check = .error (.badTokenUrl (some url))
  kind : ∀ fault, (draft.withTokenUrl url).check = .error fault →
    (Failure.settings fault).kind = .value
  /-- The only line feed of an accepted address is one after its form. -/
  oneLine : ∀ settings, (draft.withTokenUrl url).check = .ok settings →
    ('\n' ∉ url.toList ↔ HasForm url.toList)

/-- Every draft is checked for an address of the form, after which a line feed may stand. -/
theorem check_checksTokenUrl (draft : Draft) (url : String) : draft.ChecksTokenUrl url where
  accepts := by
    constructor
    · rintro ⟨settings, checked⟩
      exact accepted_of_check checked
    · rintro ⟨valid, accepted⟩
      obtain ⟨passed, _⟩ | ⟨_, refused⟩ := check_of_otherwiseValid valid
      · exact passed
      · exact absurd accepted refused
  rejects := by
    intro valid refused
    obtain ⟨_, accepted⟩ | ⟨failed, _⟩ := check_of_otherwiseValid valid
    · exact absurd accepted refused
    · exact failed
  kind := fun _ _ => rfl
  oneLine := fun _ checked => (accepted_of_check checked).2.oneLine_iff

/-- A line feed after an address is accepted with it. -/
theorem lineFeed_passes :
    ({} : Draft).OtherwiseValid ∧ ¬ HasForm "https://a\n".toList ∧
      (({} : Draft).withTokenUrl "https://a\n").check =
        .ok ⟨defaultTimeout, 0, defaultUserAgent, "https://a\n", true⟩ := by
  refine ⟨⟨by decide, by decide, _, rfl, by decide⟩, ?_, by decide⟩
  intro form
  exact form.oneLine (by decide)

end Draft

end ImageOwnership.Settings
