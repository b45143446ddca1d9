import ImageOwnership.Proofs.Result
import ImageOwnership.Settings

/-!
What the check of a draft comes to: settings that hold what was given, or the first fault in the order of
the checks.
-/

namespace ImageOwnership.Settings.Draft

variable {draft : Draft} {settings : Settings} {fault : Fault}

/-- The settings hold what the draft gives, and each value of it is one that is accepted. -/
structure Passes (draft : Draft) (settings : Settings) : Prop where
  timeout : settings.timeout = draft.timeout
  lasting : draft.timeout.atMostZero = false
  retries : (settings.retries : Int) = draft.retries
  userAgent : draft.userAgent = some settings.userAgent
  named : settings.userAgent ≠ ""
  tokenUrl : draft.tokenUrl = some settings.tokenUrl
  wellFormed : TokenUrl.isWellFormed settings.tokenUrl.toList = true
  skipsRateLimit : settings.skipsRateLimit = draft.skipsRateLimit

/-- The first fault of a draft. -/
inductive Fails (draft : Draft) : Fault → Prop where
  | timeout (short : draft.timeout.atMostZero = true) :
      Fails draft (.timeoutNotPositive draft.timeout)
  | retries (lasting : draft.timeout.atMostZero = false) (negative : draft.retries < 0) :
      Fails draft (.negativeRetries draft.retries)
  | userAgent (lasting : draft.timeout.atMostZero = false) (counted : 0 ≤ draft.retries)
      (unnamed : draft.userAgent = none ∨ draft.userAgent = some "") : Fails draft .noUserAgent
  | tokenUrl {agent : String} (lasting : draft.timeout.atMostZero = false) (counted : 0 ≤ draft.retries)
      (userAgent : draft.userAgent = some agent) (named : agent ≠ "")
      (malformed : ∀ url, draft.tokenUrl = some url → TokenUrl.isWellFormed url.toList = false) :
      Fails draft (.badTokenUrl draft.tokenUrl)

theorem checkUserAgent_cases (given : Option String) :
    (given = none ∨ given = some "") ∧ checkUserAgent given = .error .noUserAgent ∨
      ∃ agent, given = some agent ∧ agent ≠ "" ∧ checkUserAgent given = .ok agent := by
  cases given with
  | none => exact .inl ⟨.inl rfl, rfl⟩
  | some agent =>
      by_cases empty : agent = ""
      · subst empty
        exact .inl ⟨.inr rfl, rfl⟩
      · refine .inr ⟨agent, rfl, empty, ?_⟩
        simp [checkUserAgent, empty]

theorem checkTokenUrl_cases (given : Option String) :
    (∀ url, given = some url → TokenUrl.isWellFormed url.toList = false) ∧
        checkTokenUrl given = .error (.badTokenUrl given) ∨
      ∃ url, given = some url ∧ TokenUrl.isWellFormed url.toList = true ∧
        checkTokenUrl given = .ok url := by
  cases given with
  | none => exact .inl ⟨nofun, rfl⟩
  | some url =>
      cases formed : TokenUrl.isWellFormed url.toList with
      | false =>
          refine .inl ⟨?_, ?_⟩
          · rintro _ ⟨⟩
            exact formed
          · simp [checkTokenUrl, formed]
      | true =>
          refine .inr ⟨url, rfl, formed, ?_⟩
          simp [checkTokenUrl, formed]

/-- A draft passes as settings or fails by its first fault. -/
theorem check_cases (draft : Draft) :
    (∃ settings, draft.check = .ok settings ∧ draft.Passes settings) ∨
      ∃ fault, draft.check = .error fault ∧ draft.Fails fault := by
  cases lasting : draft.timeout.atMostZero with
  | true =>
      refine .inr ⟨_, ?_, .timeout lasting⟩
      simp [check, lasting]
      rfl
  | false =>
      by_cases negative : draft.retries < 0
      · refine .inr ⟨_, ?_, .retries lasting negative⟩
        simp [check, lasting, negative]
        rfl
      have counted : 0 ≤ draft.retries := by omega
      obtain ⟨unnamed, refused⟩ | ⟨agent, given, named, taken⟩ := checkUserAgent_cases draft.userAgent
      · refine .inr ⟨_, ?_, .userAgent lasting counted unnamed⟩
        simp [check, lasting, negative, refused]
        rfl
      obtain ⟨malformed, refused⟩ | ⟨url, address, formed, found⟩ := checkTokenUrl_cases draft.tokenUrl
      · refine .inr ⟨_, ?_, .tokenUrl lasting counted given named malformed⟩
        simp [check, lasting, negative, taken, refused]
        rfl
      · refine .inl ⟨⟨draft.timeout, draft.retries.toNat, agent, url, draft.skipsRateLimit⟩, ?_, ?_⟩
        · simp [check, lasting, negative, taken, found]
          rfl
        · exact ⟨rfl, lasting, Int.toNat_of_nonneg counted, given, named, address, formed, rfl⟩

theorem passes_of_check (checked : draft.check = .ok settings) : draft.Passes settings := by
  obtain ⟨others, passed, passes⟩ | ⟨fault, failed, _⟩ := check_cases draft
  · rw [checked] at passed
    cases passed
    exact passes
  · rw [checked] at failed
    cases failed

theorem fails_of_check (failed : draft.check = .error fault) : draft.Fails fault := by
  obtain ⟨settings, passed, _⟩ | ⟨other, again, fails⟩ := check_cases draft
  · rw [failed] at passed
    cases passed
  · rw [failed] at again
    cases again
    exact fails

end ImageOwnership.Settings.Draft
