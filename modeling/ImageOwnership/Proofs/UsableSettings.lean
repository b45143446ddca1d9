import ImageOwnership.Failure
import ImageOwnership.Proofs.Decimal.Reading
import ImageOwnership.Proofs.Http.Trace
import ImageOwnership.Proofs.Settings.Check
import Mathlib.Algebra.Order.Field.Power
import Mathlib.Algebra.Order.Field.Rat

/-!
What settings can be relied on for, whether they are given or read from the environment. Their timeout is
greater than zero unless it is no number at all, a call under them comes to its first attempt, and there
is a user agent.
-/

namespace ImageOwnership

/-! ### Numbers greater than zero -/

namespace Binary64

/-- The number that a finite value is. -/
def rational (negative : Bool) (significand : Nat) (exponent : Int) : ℚ :=
  (if negative then -1 else 1) * significand * 2 ^ exponent

/-- Whether a value is a number and greater than zero. -/
def IsPositive : Binary64 → Prop
  | .nan => False
  | .infinite negative => negative = false
  | .finite negative significand exponent => 0 < rational negative significand exponent

theorem rational_pos_iff {negative : Bool} {significand : Nat} {exponent : Int} :
    0 < rational negative significand exponent ↔ negative = false ∧ significand ≠ 0 := by
  have unit : (0 : ℚ) < 2 ^ exponent := zpow_pos (by decide) exponent
  rw [rational, mul_pos_iff_of_pos_right unit]
  cases negative with
  | false => simp [Nat.pos_iff_ne_zero]
  | true => simp

/-- A value that does not compare as at most zero is greater than zero, or it is no number. -/
theorem atMostZero_eq_false_iff {value : Binary64} :
    value.atMostZero = false ↔ value.IsPositive ∨ value = .nan := by
  cases value with
  | nan => simp [atMostZero]
  | infinite negative => simp [atMostZero, IsPositive]
  | finite negative significand exponent => simp [atMostZero, IsPositive, rational_pos_iff]

end Binary64

namespace Timeout

def IsPositive : Timeout → Prop
  | .whole seconds => 0 < seconds
  | .real seconds => seconds.IsPositive

theorem not_isPositive_nan : ¬ (Timeout.real .nan).IsPositive := id

theorem atMostZero_eq_false_iff {timeout : Timeout} :
    timeout.atMostZero = false ↔ timeout.IsPositive ∨ timeout = .real .nan := by
  cases timeout with
  | whole seconds => simp [atMostZero, IsPositive]
  | real seconds => simp [atMostZero, IsPositive, Binary64.atMostZero_eq_false_iff]

end Timeout

/-! ### The first attempt at a call -/

namespace Http

variable {World Note : Type}

/-- Under the settings the client is called at least once for a call, unless the caller has cancelled
before the first attempt. -/
def Attempts (transport : Transport World) (client : Client) (settings : Settings) (call : Call)
    (run : Run World Note) : Prop :=
  (transport.isCancelled run.world).1 = true ∧
      (Action.perform (Retry.get transport client settings call) run).1 =
        .error (.cancelled .before call.url) ∨
    ∃ later, (Action.perform (Retry.get transport client settings call) run).2.trace =
      run.trace ++ .called call.url :: later

theorem attempts_get (transport : Transport World) (client : Client) (settings : Settings) (call : Call)
    (run : Run World Note) : Attempts transport client settings call run := by
  obtain ⟨events, result, after, course⟩ :=
    Course.exists transport client run.isOpen call settings.retries 0 run.world
  rw [Attempts, Retry.get, course.performed rfl rfl]
  obtain ⟨cancelled, _, ended⟩ | ⟨later, rfl⟩ := course.attempted
  · exact .inl ⟨cancelled, ended⟩
  · exact .inr ⟨later, rfl⟩

end Http

namespace Settings

/-! ### Settings and where they come from -/

/-- Settings are given, or they are read from the environment. -/
inductive Source where
  | given (draft : Draft)
  | read (environment : Environment)

namespace Source

/-- What is to be checked. -/
def draft : Source → Except Fault Draft
  | .given draft => .ok draft
  | .read environment => environment.draft

def settings : Source → Except Fault Settings
  | .given draft => draft.check
  | .read environment => ofEnvironment environment

/-- The timeout is given as no number, or spelled as none. -/
def LacksTimeout : Source → Prop
  | .given draft => draft.timeout = .real .nan
  | .read environment =>
      ∃ text, environment .timeout = some text ∧ Reading.SpellsNan text.toList

variable {source : Source} {settings : Settings} {fault : Fault}

theorem settings_eq (source : Source) : source.settings = source.draft >>= Draft.check := by
  cases source with
  | given draft => rfl
  | read environment => rfl

theorem passes_of_settings (made : source.settings = .ok settings) :
    ∃ draft, source.draft = .ok draft ∧ draft.Passes settings := by
  rw [settings_eq, Result.bind_eq_ok] at made
  obtain ⟨draft, drawn, checked⟩ := made
  exact ⟨draft, drawn, Draft.passes_of_check checked⟩

theorem fails_of_settings (failed : source.settings = .error fault) :
    source.draft = .error fault ∨ ∃ draft, source.draft = .ok draft ∧ draft.Fails fault := by
  rw [settings_eq, Result.bind_eq_error] at failed
  obtain unread | ⟨draft, drawn, refused⟩ := failed
  · exact .inl unread
  · exact .inr ⟨draft, drawn, Draft.fails_of_check refused⟩

end Source

/-! ### What settings can be relied on for -/

theorem Environment.timeout_eq_nan_iff {environment : Environment} :
    environment.timeout = .ok (.real .nan) ↔
      ∃ text, environment .timeout = some text ∧ Reading.SpellsNan text.toList := by
  simp only [← Reading.real_eq_nan_iff]
  unfold Environment.timeout
  cases value : environment.nonempty? .timeout with
  | none =>
      -- An empty variable counts as unset, and it spells no word either.
      have default : defaultTimeout ≠ .real .nan := by decide
      have nothing : Reading.real "" ≠ .ok .nan := by decide
      have unread : ∀ text, environment .timeout = some text → Reading.real text ≠ .ok .nan := by
        intro text given
        have empty : text = "" := by simpa [Environment.nonempty?, given] using value
        rw [empty]
        exact nothing
      simpa [default] using unread
  | some text =>
      have given : environment .timeout = some text := (Option.filter_eq_some_iff.mp value).1
      rw [given]
      cases read : Reading.real text with
      | error fault => simp [read, Except.map]
      | ok seconds => simp [read, Except.map]

theorem Environment.timeout_of_draft {environment : Environment} {draft : Draft}
    (drawn : environment.draft = .ok draft) : environment.timeout = .ok draft.timeout := by
  unfold Environment.draft at drawn
  obtain ⟨timeout, read, drawn⟩ := Result.bind_eq_ok.mp drawn
  obtain ⟨retries, _, drawn⟩ := Result.bind_eq_ok.mp drawn
  cases drawn
  exact read

namespace Source

variable {source : Source} {settings : Settings}

theorem timeout_eq_nan_iff (made : source.settings = .ok settings) :
    settings.timeout = .real .nan ↔ source.LacksTimeout := by
  obtain ⟨draft, drawn, passes⟩ := passes_of_settings made
  rw [passes.timeout]
  cases source with
  | given draft =>
      cases drawn
      rfl
  | read environment =>
      rw [LacksTimeout, ← Environment.timeout_eq_nan_iff, Environment.timeout_of_draft drawn]
      simp

theorem isPositive_iff (made : source.settings = .ok settings) :
    settings.timeout.IsPositive ↔ ¬ source.LacksTimeout := by
  obtain ⟨draft, _, passes⟩ := passes_of_settings made
  have lasting : settings.timeout.atMostZero = false := passes.timeout ▸ passes.lasting
  rw [← timeout_eq_nan_iff made]
  constructor
  · intro positive none
    rw [none] at positive
    exact Timeout.not_isPositive_nan positive
  · exact (Timeout.atMostZero_eq_false_iff.mp lasting).resolve_right

/-- What the settings of a source can be relied on for, and what it means that there are none. -/
structure Reliable (source : Source) : Prop where
  timeout : ∀ settings, source.settings = .ok settings →
    (settings.timeout.IsPositive ↔ ¬ source.LacksTimeout)
  /-- The only timeout that is not greater than zero is no number. -/
  lacking : ∀ settings, source.settings = .ok settings →
    (settings.timeout = .real .nan ↔ source.LacksTimeout)
  /-- The number of repetitions is kept as it is, and so it was not below zero. -/
  retries : ∀ settings, source.settings = .ok settings →
    ∃ draft, source.draft = .ok draft ∧ draft.retries = settings.retries
  attempts : ∀ settings, source.settings = .ok settings →
    ∀ {World Note : Type} (transport : Http.Transport World) (client : Http.Client) (call : Http.Call)
      (run : Http.Run World Note), Http.Attempts transport client settings call run
  userAgent : ∀ settings, source.settings = .ok settings → settings.userAgent ≠ ""
  /-- A number that cannot be read or the first bad value is the reason that there are no settings. -/
  refused : ∀ fault, source.settings = .error fault →
    (Failure.settings fault).kind = .value ∧
      (source.draft = .error fault ∨ ∃ draft, source.draft = .ok draft ∧ draft.Fails fault)

/-- Settings are reliable wherever they come from. -/
theorem settings_reliable (source : Source) : source.Reliable where
  timeout := fun _ made => isPositive_iff made
  lacking := fun _ made => timeout_eq_nan_iff made
  retries := fun _ made => by
    obtain ⟨draft, drawn, passes⟩ := passes_of_settings made
    exact ⟨draft, drawn, passes.retries.symm⟩
  attempts := fun settings _ _ _ transport client call run =>
    Http.attempts_get transport client settings call run
  userAgent := fun _ made => by
    obtain ⟨_, _, passes⟩ := passes_of_settings made
    exact passes.named
  refused := fun _ failed => ⟨rfl, fails_of_settings failed⟩

/-- An environment in which the timeout is spelled as no number. -/
def untimed : Source :=
  .read fun
    | .timeout => some "nan"
    | _ => none

/-- There are settings whose timeout is not greater than zero. -/
theorem untimed_settings :
    untimed.settings = .ok ⟨.real .nan, 0, defaultUserAgent, defaultTokenUrl, true⟩ ∧
      ¬ (Timeout.real .nan).IsPositive :=
  ⟨by decide +kernel, Timeout.not_isPositive_nan⟩

end Source

end Settings

end ImageOwnership
