import Mathlib.Control.Monad.Basic

/-!
Chains of steps that may fail: one gives a good result exactly when each of its steps does, and otherwise
the failure of the first step that fails.
-/

namespace ImageOwnership.Result

variable {Failure Other α β : Type}

theorem bind_eq_ok {result : Except Failure α} {next : α → Except Failure β} {value : β} :
    result >>= next = .ok value ↔ ∃ middle, result = .ok middle ∧ next middle = .ok value := by
  cases result with
  | error failure => simp [bind, Except.bind]
  | ok middle => simp [bind, Except.bind]

theorem bind_eq_error {result : Except Failure α} {next : α → Except Failure β} {failure : Failure} :
    result >>= next = .error failure ↔
      result = .error failure ∨ ∃ middle, result = .ok middle ∧ next middle = .error failure := by
  cases result with
  | error cause => simp [bind, Except.bind]
  | ok middle => simp [bind, Except.bind]

theorem ok_bind (value : α) (next : α → Except Failure β) : Except.ok value >>= next = next value :=
  rfl

@[simp] theorem mapError_ok (value : α) (change : Failure → Other) :
    (Except.ok value : Except Failure α).mapError change = .ok value := rfl

@[simp] theorem mapError_error (failure : Failure) (change : Failure → Other) :
    (Except.error failure : Except Failure α).mapError change = .error (change failure) := rfl

theorem mapError_eq_ok {result : Except Failure α} {change : Failure → Other} {value : α} :
    result.mapError change = .ok value ↔ result = .ok value := by
  cases result with
  | error failure => simp
  | ok middle => simp

theorem mapError_eq_error {result : Except Failure α} {change : Failure → Other} {other : Other} :
    result.mapError change = .error other ↔
      ∃ failure, result = .error failure ∧ change failure = other := by
  cases result with
  | error failure => simp
  | ok middle => simp

theorem map_mapError (view : α → β) (change : Failure → Other) (result : Except Failure α) :
    (result.mapError change).map view = (result.map view).mapError change := by
  cases result with
  | error failure => rfl
  | ok value => rfl

theorem map_bind (view : β → Other) (result : Except Failure α) (next : α → Except Failure β) :
    (result >>= next).map view = result >>= fun value => (next value).map view := by
  cases result with
  | error failure => rfl
  | ok value => rfl

theorem bind_map (change : α → β) (result : Except Failure α) (next : β → Except Failure Other) :
    result.map change >>= next = result >>= fun value => next (change value) := by
  cases result with
  | error failure => rfl
  | ok value => rfl

theorem toOption_eq_some_iff {result : Except Failure α} {value : α} :
    result.toOption = some value ↔ result = .ok value := by
  cases result with
  | error failure => simp [Except.toOption]
  | ok middle => simp [Except.toOption]

end ImageOwnership.Result
