import ImageOwnership.Http.Run
import ImageOwnership.Proofs.Result

/-!
What steps do to a run. `Action.perform` gives the result of a step and the run after it, and each step
from which validations are put together has one equation.
-/

namespace ImageOwnership.Http

variable {World Note Failure Other α β : Type}

namespace Run

/-- A run after further events, in a world that has moved on. -/
def advance (run : Run World Note) (events : List Event) (world : World) : Run World Note :=
  { run with world, trace := run.trace ++ events }

@[simp] theorem advance_world (run : Run World Note) (events : List Event) (world : World) :
    (run.advance events world).world = world := rfl

@[simp] theorem advance_isOpen (run : Run World Note) (events : List Event) (world : World) :
    (run.advance events world).isOpen = run.isOpen := rfl

@[simp] theorem advance_trace (run : Run World Note) (events : List Event) (world : World) :
    (run.advance events world).trace = run.trace ++ events := rfl

@[simp] theorem advance_advance (run : Run World Note) (earlier later : List Event)
    (middle world : World) :
    (run.advance earlier middle).advance later world = run.advance (earlier ++ later) world := by
  simp [advance, List.append_assoc]

def noting (run : Run World Note) (notes : List Note) : Run World Note :=
  { run with notes := run.notes ++ notes }

@[simp] theorem noting_world (run : Run World Note) (notes : List Note) :
    (run.noting notes).world = run.world := rfl

@[simp] theorem noting_isOpen (run : Run World Note) (notes : List Note) :
    (run.noting notes).isOpen = run.isOpen := rfl

@[simp] theorem noting_trace (run : Run World Note) (notes : List Note) :
    (run.noting notes).trace = run.trace := rfl

@[simp] theorem noting_noting (run : Run World Note) (earlier later : List Note) :
    (run.noting earlier).noting later = run.noting (earlier ++ later) := by
  simp [noting, List.append_assoc]

/-- Notes and events are kept apart, so that it does not matter which come first. -/
@[simp] theorem noting_advance (run : Run World Note) (notes : List Note) (events : List Event)
    (world : World) :
    (run.noting notes).advance events world = (run.advance events world).noting notes := rfl

theorem advance_nothing (run : Run World Note) : run.advance [] run.world = run := by
  simp [advance]

theorem noting_nothing (run : Run World Note) : run.noting [] = run := by
  simp [noting]

end Run

namespace Action

def perform (action : Action World Note Failure α) (run : Run World Note) :
    Except Failure α × Run World Note :=
  action.run.run run

/-- Steps are told apart by what they do to runs. -/
theorem ext {first second : Action World Note Failure α}
    (same : ∀ run, perform first run = perform second run) : first = second :=
  funext same

variable (run : Run World Note)

@[simp] theorem perform_pure (value : α) :
    perform (pure value : Action World Note Failure α) run = (.ok value, run) := rfl

@[simp] theorem perform_throw (failure : Failure) :
    perform (throw failure : Action World Note Failure α) run = (.error failure, run) := rfl

@[simp] theorem perform_bind (action : Action World Note Failure α)
    (next : α → Action World Note Failure β) :
    perform (action >>= next) run =
      match perform action run with
      | (.ok value, after) => perform (next value) after
      | (.error failure, after) => (.error failure, after) := by
  have step : perform (action >>= next) run =
      match perform action run with
      | (result, after) => ExceptT.bindCont next result after := rfl
  rw [step]
  cases perform action run with
  | mk result after => cases result <;> rfl

@[simp] theorem perform_map (change : α → β) (action : Action World Note Failure α) :
    perform (change <$> action) run =
      ((perform action run).1.map change, (perform action run).2) := by
  rw [← bind_pure_comp, perform_bind]
  cases perform action run with
  | mk result after => cases result <;> rfl

@[simp] theorem perform_get :
    perform (get : Action World Note Failure (Run World Note)) run = (.ok run, run) := rfl

@[simp] theorem perform_modify (change : Run World Note → Run World Note) :
    perform (modify change : Action World Note Failure PUnit) run = (.ok (), change run) := rfl

@[simp] theorem perform_record (event : Event) :
    perform (record event : Action World Note Failure Unit) run =
      (.ok (), run.advance [event] run.world) := rfl

@[simp] theorem perform_note (entry : Note) :
    perform (note entry : Action World Note Failure Unit) run =
      (.ok (), run.noting [entry]) := rfl

@[simp] theorem perform_isCancelled (transport : Transport World) :
    perform (isCancelled transport : Action World Note Failure Bool) run =
      (.ok (transport.isCancelled run.world).1,
        run.advance [] (transport.isCancelled run.world).2) := by
  simp only [Run.advance, List.append_nil]
  rfl

@[simp] theorem perform_pause (transport : Transport World) (seconds : Nat) :
    perform (pause transport seconds : Action World Note Failure Unit) run =
      (.ok (), run.advance [.paused seconds] (transport.pause seconds run.world)) := rfl

@[simp] theorem perform_respond (transport : Transport World) (request : Request) :
    perform (respond transport request : Action World Note Failure _) run =
      (.ok (transport.respond request run.world).1,
        run.advance [.sent request] (transport.respond request run.world).2) := rfl

@[simp] theorem perform_ofExcept (result : Except Failure α) :
    perform (ofExcept result : Action World Note Failure α) run = (result, run) := rfl

@[simp] theorem ofExcept_ok (value : α) :
    (ofExcept (.ok value) : Action World Note Failure α) = pure value := rfl

@[simp] theorem ofExcept_error (failure : Failure) :
    (ofExcept (.error failure) : Action World Note Failure α) = throw failure := rfl

theorem map_ofExcept (change : α → β) (result : Except Failure α) :
    (change <$> ofExcept result : Action World Note Failure β) = ofExcept (result.map change) := by
  cases result with
  | error failure => rfl
  | ok value => rfl

@[simp] theorem perform_outcome (action : Action World Note Failure α) :
    perform (outcome action : Action World Note Other (Except Failure α)) run =
      (.ok (perform action run).1, (perform action run).2) := rfl

end Action

end ImageOwnership.Http
