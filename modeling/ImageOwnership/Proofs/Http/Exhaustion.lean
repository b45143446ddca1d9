import ImageOwnership.Proofs.Http.Budget

/-!
Calls that run out of attempts. All attempts time out, down to the last one that is left; such a call is
the only one that more repetitions could have changed.
-/

namespace ImageOwnership.Http

variable {World : Type} {transport : Transport World} {client : Client} {isOpen : Bool} {call : Call}
  {left pauses : Nat} {world after : World} {events : List Event} {fault : Fault}

/-- Every attempt at a call times out, and no repetition is left in the end. -/
inductive Exhausted (transport : Transport World) (client : Client) (isOpen : Bool) (call : Call) :
    Nat → Nat → World → List Event → Fault → World → Prop where
  | last {pauses world begun events fault after}
      (uncancelled : transport.isCancelled world = (false, begun))
      (attempt : Attempt transport client isOpen call begun events (.error fault) after)
      (timedOut : Retry.isTimeout fault = true) :
      Exhausted transport client isOpen call 0 pauses world events fault after
  | again {left pauses world begun earlier cause middle later fault after}
      (uncancelled : transport.isCancelled world = (false, begun))
      (attempt : Attempt transport client isOpen call begun earlier (.error cause) middle)
      (timedOut : Retry.isTimeout cause = true)
      (rest : Exhausted transport client isOpen call left (pauses + 1)
        (transport.pause (Retry.delay pauses) middle) later fault after) :
      Exhausted transport client isOpen call (left + 1) pauses world
        (earlier ++ .paused (Retry.delay pauses) :: later) fault after

theorem Exhausted.course
    (exhausted : Exhausted transport client isOpen call left pauses world events fault after) :
    Course transport client isOpen call left pauses world events (.error (.fault fault)) after ∧
      Retry.isTimeout fault = true := by
  induction exhausted with
  | last uncancelled attempt timedOut => exact ⟨.failed uncancelled attempt (.inl rfl), timedOut⟩
  | again uncancelled attempt timedOut _ ih =>
      exact ⟨.repeated uncancelled attempt timedOut ih.1, ih.2⟩

/-- A call that ends in a timeout has timed out as often as it may be attempted. -/
theorem Course.exhausted
    (course : Course transport client isOpen call left pauses world events (.error (.fault fault))
      after)
    (timedOut : Retry.isTimeout fault = true) :
    Exhausted transport client isOpen call left pauses world events fault after := by
  generalize ending : (Except.error (Stop.fault fault) : Except Stop Reply) = result at course
  induction course with
  | cancelledBefore => cases ending
  | cancelledDuring => cases ending
  | replied => cases ending
  | failed uncancelled attempt final =>
      cases ending
      obtain rfl | lasting := final
      · exact .last uncancelled attempt timedOut
      · rw [timedOut] at lasting
        cases lasting
  | repeated uncancelled attempt again _ ih => exact .again uncancelled attempt again (ih ending)

theorem Attempt.calls {result : Except Fault Reply}
    (attempt : Attempt transport client isOpen call world events result after) :
    events.countP Event.isCall = 1 := by
  obtain ⟨requests, rfl⟩ := attempt.called
  exact Event.countP_isCall_called call.url requests

theorem Exhausted.calls
    (exhausted : Exhausted transport client isOpen call left pauses world events fault after) :
    events.countP Event.isCall = left + 1 := by
  induction exhausted with
  | last _ attempt _ => exact attempt.calls
  | again _ attempt _ _ ih =>
      rw [List.countP_append, attempt.calls, List.countP_cons_of_neg Bool.false_ne_true, ih]
      exact Nat.add_comm _ _

/-- Repetitions that a call does not need change nothing about it. -/
theorem Course.patient {result : Except Stop Reply} {more : Nat}
    (course : Course transport client isOpen call left pauses world events result after)
    (enough : left ≤ more)
    (spared : ∀ fault, ¬ Exhausted transport client isOpen call left pauses world events fault after) :
    Course transport client isOpen call more pauses world events result after := by
  induction course generalizing more with
  | cancelledBefore cancelled => exact .cancelledBefore cancelled
  | cancelledDuring uncancelled attempt cancelled =>
      exact .cancelledDuring uncancelled attempt cancelled
  | replied uncancelled attempt still => exact .replied uncancelled attempt still
  | @failed left pauses _ _ _ fault _ uncancelled attempt final =>
      refine .failed uncancelled attempt (.inr ?_)
      -- The fault is the last one, and it is no timeout because the call does not run out of attempts.
      by_contra timeout
      have timedOut : Retry.isTimeout fault = true := by simpa using timeout
      exact spared fault ((Course.failed uncancelled attempt final).exhausted timedOut)
  | repeated uncancelled attempt timedOut _ ih =>
      obtain ⟨more, rfl⟩ : ∃ fewer, more = fewer + 1 := ⟨more - 1, by omega⟩
      refine .repeated uncancelled attempt timedOut (ih (Nat.le_of_succ_le_succ enough) ?_)
      intro fault exhausted
      exact spared fault (.again uncancelled attempt timedOut exhausted)

end ImageOwnership.Http
