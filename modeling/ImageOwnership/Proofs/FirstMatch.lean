import ImageOwnership.Provider

/-!
How a table resolves an address. The entry of the address comes first. Without one the rules are asked in
their order and none after the first that accepts, so that more rules at the end change nothing for an
address that is resolved, and another order changes only which rules are asked.
-/

namespace ImageOwnership.Provider.Table

/-! ### Asking rules -/

section Asking

variable {url : String} {rules before after : List Rule} {rule : Rule}

theorem ask_accepts (url : String) (rules : List Rule) :
    (ask url rules).2 = rules.any (·.accepts url) := by
  induction rules with
  | nil => rfl
  | cons rule rest ih =>
      rw [ask, List.any_cons]
      by_cases accepted : rule.accepts url = true
      · simp [accepted]
      · simp [accepted, ih]

theorem ask_append_of_accepted (accepted : (ask url rules).2 = true) (more : List Rule) :
    ask url (rules ++ more) = ask url rules := by
  induction rules with
  | nil => cases accepted
  | cons rule rest ih =>
      rw [List.cons_append, ask, ask]
      by_cases here : rule.accepts url = true
      · simp [here]
      · have later : (ask url rest).2 = true := by simpa [ask, here] using accepted
        simp [here, ih later]

theorem ask_refused_append (refused : ∀ rule ∈ before, rule.accepts url = false) (more : List Rule) :
    ask url (before ++ more) = (before.length + (ask url more).1, (ask url more).2) := by
  induction before with
  | nil => simp
  | cons first rest ih =>
      have here : first.accepts url = false := refused first List.mem_cons_self
      have others := ih fun rule member => refused rule (List.mem_cons_of_mem _ member)
      rw [List.cons_append, ask, others]
      simp [here]
      omega

theorem ask_le (url : String) (rules : List Rule) : (ask url rules).1 ≤ rules.length := by
  induction rules with
  | nil => exact Nat.le_refl 0
  | cons rule rest ih =>
      rw [ask, List.length_cons]
      split
      · exact Nat.le_add_left 1 rest.length
      · exact Nat.succ_le_succ ih

theorem ask_of_first (refused : ∀ earlier ∈ before, earlier.accepts url = false)
    (accepted : rule.accepts url = true) :
    ask url (before ++ rule :: after) = (before.length + 1, true) := by
  rw [ask_refused_append refused]
  simp [ask, accepted]

theorem ask_of_refused (refused : ∀ rule ∈ rules, rule.accepts url = false) :
    ask url rules = (rules.length, false) := by
  have whole := ask_refused_append refused []
  simpa [ask] using whole

end Asking

/-! ### Calls of rules -/

theorem consult_run (url : String) (rules : List Rule) (earlier : List RuleCall) :
    (consult url rules).run earlier =
      ((ask url rules).2, earlier ++ (rules.take (ask url rules).1).map (·, url)) := by
  -- The calls before are any: the rest of the rules begins with one call more than the whole.
  induction rules generalizing earlier with
  | nil =>
      rw [ask, List.take_nil, List.map_nil, List.append_nil]
      rfl
  | cons rule rest ih =>
      by_cases accepted : rule.accepts url = true
      · simp [consult, ask, accepted]
        rfl
      · simp [consult, ask, accepted, ih]

/-! ### Resolving addresses -/

def withRules (rules : List Rule) (table : Table) : Table :=
  { table with rules }

section Resolving

variable {table : Table} {baseUrl origin : String}

theorem effectiveUrl_eq (table : Table) (baseUrl : String) :
    table.effectiveUrl baseUrl = if baseUrl = "" then table.defaultUrl else baseUrl := by
  simp [effectiveUrl]

@[simp] theorem effectiveUrl_empty (table : Table) : table.effectiveUrl "" = table.defaultUrl := rfl

@[simp] theorem effectiveUrl_defaultUrl (table : Table) :
    table.effectiveUrl table.defaultUrl = table.defaultUrl := by
  rw [effectiveUrl_eq, ite_self]

theorem resolution_known (entry : table.origins.lookup (table.effectiveUrl baseUrl) = some origin) :
    table.resolution baseUrl = ⟨table.effectiveUrl baseUrl, 0, some origin⟩ := by
  simp [resolution, entry]

theorem resolution_unknown (unknown : table.origins.lookup (table.effectiveUrl baseUrl) = none) :
    table.resolution baseUrl =
      ⟨table.effectiveUrl baseUrl, (ask (table.effectiveUrl baseUrl) table.rules).1,
        if (ask (table.effectiveUrl baseUrl) table.rules).2 then some (table.effectiveUrl baseUrl)
        else none⟩ := by
  simp [resolution, unknown]

theorem resolution_first {before after : List Rule} {rule : Rule}
    (unknown : table.origins.lookup (table.effectiveUrl baseUrl) = none)
    (rules : table.rules = before ++ rule :: after)
    (refused : ∀ earlier ∈ before, earlier.accepts (table.effectiveUrl baseUrl) = false)
    (accepted : rule.accepts (table.effectiveUrl baseUrl) = true) :
    table.resolution baseUrl =
      ⟨table.effectiveUrl baseUrl, before.length + 1, some (table.effectiveUrl baseUrl)⟩ := by
  rw [resolution_unknown unknown, rules, ask_of_first refused accepted]
  rfl

theorem resolution_nothing (unknown : table.origins.lookup (table.effectiveUrl baseUrl) = none)
    (refused : ∀ rule ∈ table.rules, rule.accepts (table.effectiveUrl baseUrl) = false) :
    table.resolution baseUrl = ⟨table.effectiveUrl baseUrl, table.rules.length, none⟩ := by
  rw [resolution_unknown unknown, ask_of_refused refused]
  rfl

theorem asked_le (table : Table) (baseUrl : String) :
    (table.resolution baseUrl).asked ≤ table.rules.length := by
  cases entry : table.origins.lookup (table.effectiveUrl baseUrl) with
  | some origin =>
      rw [resolution_known entry]
      exact Nat.zero_le _
  | none =>
      rw [resolution_unknown entry]
      exact ask_le _ _

/-- Writing the calls down changes no result. -/
theorem consultFor_run (table : Table) (baseUrl : String) :
    (table.consultFor baseUrl).run [] =
      (table.resolve baseUrl,
        (table.rules.take (table.resolution baseUrl).asked).map (·, table.effectiveUrl baseUrl)) := by
  rw [resolve]
  cases entry : table.origins.lookup (table.effectiveUrl baseUrl) with
  | some origin =>
      rw [resolution_known entry, consultFor]
      simp only [entry]
      rfl
  | none =>
      rw [resolution_unknown entry, consultFor]
      simp only [entry, StateT.run_bind, consult_run]
      cases (ask (table.effectiveUrl baseUrl) table.rules).2 with
      | false => rfl
      | true => rfl

theorem calls_eq (table : Table) (baseUrl : String) :
    table.calls baseUrl =
      (table.rules.take (table.resolution baseUrl).asked).map (·, table.effectiveUrl baseUrl) := by
  rw [calls, consultFor_run]

/-- An address leads to the origin of its entry, or to itself if it has none and a rule accepts it. -/
theorem resolve_eq_ok_iff :
    table.resolve baseUrl = .ok origin ↔
      table.origins.lookup (table.effectiveUrl baseUrl) = some origin ∨
        table.origins.lookup (table.effectiveUrl baseUrl) = none ∧
          table.rules.any (·.accepts (table.effectiveUrl baseUrl)) = true ∧
          table.effectiveUrl baseUrl = origin := by
  unfold resolve
  cases entry : table.origins.lookup (table.effectiveUrl baseUrl) with
  | some found => simp [resolution_known entry]
  | none =>
      rw [resolution_unknown entry, ask_accepts]
      by_cases accepted : table.rules.any (·.accepts (table.effectiveUrl baseUrl)) = true
      · simp [accepted]
      · simp [accepted]

/-- An address has an origin unless it has no entry and no rule accepts it. -/
theorem resolves_iff :
    (∃ origin, table.resolve baseUrl = .ok origin) ↔
      ¬ (table.origins.lookup (table.effectiveUrl baseUrl) = none ∧
        ∀ rule ∈ table.rules, rule.accepts (table.effectiveUrl baseUrl) = false) := by
  simp only [resolve_eq_ok_iff, List.any_eq_true]
  cases entry : table.origins.lookup (table.effectiveUrl baseUrl) with
  | some found => simp
  | none => simp

theorem resolve_eq_error {fault : Unsupported} (failed : table.resolve baseUrl = .error fault) :
    fault = ⟨table.effectiveUrl baseUrl, table.examples⟩ := by
  unfold resolve at failed
  split at failed
  · cases failed
  · exact (Except.error.inj failed).symm

theorem resolve_withRules_perm {rules : List Rule} (same : table.rules.Perm rules) :
    (table.withRules rules).resolve baseUrl = table.resolve baseUrl := by
  have agree (origin : String) : (table.withRules rules).resolve baseUrl = .ok origin ↔
      table.resolve baseUrl = .ok origin := by
    rw [resolve_eq_ok_iff, resolve_eq_ok_iff, same.any_eq]
    rfl
  -- Two failures are one and the same, as the examples in the message are not taken from the rules.
  cases resolved : table.resolve baseUrl with
  | ok origin => exact (agree origin).mpr resolved
  | error fault =>
      cases again : (table.withRules rules).resolve baseUrl with
      | ok origin =>
          rw [(agree origin).mp again] at resolved
          cases resolved
      | error other =>
          rw [resolve_eq_error resolved, resolve_eq_error again]
          rfl

/-- Rules after those that resolve an address are not asked about it. -/
theorem resolution_withRules_append (resolved : table.resolve baseUrl = .ok origin)
    (more : List Rule) :
    (table.withRules (table.rules ++ more)).resolution baseUrl = table.resolution baseUrl := by
  obtain entry | ⟨unknown, accepted, _⟩ := resolve_eq_ok_iff.mp resolved
  · rw [resolution_known entry]
    exact resolution_known entry
  · rw [← ask_accepts] at accepted
    have asked : ask (table.effectiveUrl baseUrl) (table.withRules (table.rules ++ more)).rules =
        ask (table.effectiveUrl baseUrl) table.rules := ask_append_of_accepted accepted more
    have there : (table.withRules (table.rules ++ more)).origins.lookup
        ((table.withRules (table.rules ++ more)).effectiveUrl baseUrl) = none := unknown
    rw [resolution_unknown unknown, resolution_unknown there, ← asked]
    rfl

end Resolving

/-- How a table resolves an address that means `url`: by its entry, or else by the first rule that
accepts it. -/
structure FirstMatch (table : Table) (baseUrl url : String) : Prop where
  /-- The calls are written down without a change to the result, and their number is told with it. -/
  recorded : ((table.consultFor baseUrl).run []).1 = table.resolve baseUrl ∧
    (table.calls baseUrl).length = (table.resolution baseUrl).asked
  entry : ∀ origin, table.origins.lookup url = some origin →
    table.resolve baseUrl = .ok origin ∧ table.calls baseUrl = []
  /-- The rules are asked up to the first one that accepts, and the address is its own origin. -/
  first : table.origins.lookup url = none → ∀ before rule after,
    table.rules = before ++ rule :: after → (∀ earlier ∈ before, earlier.accepts url = false) →
    rule.accepts url = true →
    table.resolve baseUrl = .ok url ∧ table.calls baseUrl = (before ++ [rule]).map (·, url)
  /-- Every rule is asked once when none accepts. -/
  nothing : table.origins.lookup url = none → (∀ rule ∈ table.rules, rule.accepts url = false) →
    table.resolve baseUrl = .error ⟨url, table.examples⟩ ∧
      table.calls baseUrl = table.rules.map (·, url)
  byDefault : table.resolve "" = table.resolve table.defaultUrl ∧
    table.calls "" = table.calls table.defaultUrl
  appended : ∀ origin more, table.resolve baseUrl = .ok origin →
    (table.withRules (table.rules ++ more)).resolve baseUrl = .ok origin
  permuted : ∀ rules, table.rules.Perm rules →
    (table.withRules rules).resolve baseUrl = table.resolve baseUrl

/-- Every table resolves every address by its first match. -/
theorem resolve_firstMatch (table : Table) (baseUrl : String) :
    table.FirstMatch baseUrl (if baseUrl = "" then table.defaultUrl else baseUrl) := by
  rw [← effectiveUrl_eq]
  refine ⟨?recorded, ?entry, ?first, ?nothing, ?byDefault, ?appended, ?permuted⟩
  case recorded =>
    constructor
    · rw [consultFor_run]
    · rw [calls_eq, List.length_map, List.length_take_of_le (table.asked_le baseUrl)]
  case entry =>
    intro origin entry
    have resolution := resolution_known entry
    constructor
    · rw [resolve, resolution]
    · rw [calls_eq, resolution]
      rfl
  case first =>
    intro unknown before rule after rules refused accepted
    have resolution := resolution_first unknown rules refused accepted
    constructor
    · rw [resolve, resolution]
    · have asked : table.rules.take (before.length + 1) = before ++ [rule] := by
        rw [rules, List.append_cons]
        exact List.take_left' (by simp)
      rw [calls_eq, resolution, asked]
  case nothing =>
    intro unknown refused
    have resolution := resolution_nothing unknown refused
    constructor
    · rw [resolve, resolution]
    · rw [calls_eq, resolution, List.take_length]
  case byDefault =>
    have same : table.resolution "" = table.resolution table.defaultUrl := by
      rw [resolution, resolution, effectiveUrl_empty, effectiveUrl_defaultUrl]
    constructor
    · simp [resolve, same]
    · simp [calls_eq, same]
  case appended =>
    intro origin more resolved
    have appended := resolution_withRules_append resolved more
    rw [← resolved, resolve, resolve, appended]
    rfl
  case permuted =>
    intro rules same
    exact resolve_withRules_perm same

/-- Two rules that both accept an address: the second is not asked. -/
example :
    let rules : List Rule := [.holding "first" "example", .holding "second" "https"]
    let table : Table := { origins := [], rules }
    (table.calls "https://any.example").map (·.1.name) = ["first"] := by
  decide

end ImageOwnership.Provider.Table
