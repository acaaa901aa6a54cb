import FleetOps.Supervision.Run

/-! The three ways in which a run goes on from the result of an attempt: the deadline cuts the
attempt off, its result settles the run, or the next attempt is made.
-/

namespace FleetOps.Supervision

/-- The attempt that a run makes at a time, after some executions. -/
def attemptAt (hops : Hops) (plan : Plan) (deadline number executions start : Nat) : Attempt :=
  attempt plan deadline number start
    (hops.dial (number - 1) plan.relay plan.relayCredentials plan.port)
    (hops.execute executions plan.nodeCredentials plan.command)

variable {hops : Hops} {plan : Plan} {deadline left number executions start time : Nat}
  {result : Except Failure (List UInt8)}

/-- An attempt that the deadline cuts off ends the run. -/
theorem runFrom_cutOff
    (cut : (attemptAt hops plan deadline number executions start).result = none)
    : runFrom hops plan deadline left number executions start
      = {
          outcome := .timedOut
          occurrences :=
            (attemptAt hops plan deadline number executions start).occurrences
              ++ ⟨deadline, .returned .timedOut⟩
                :: (attemptAt hops plan deadline number executions start).cleanup
        } := by
  rw [attemptAt] at cut ⊢
  rw [runFrom.eq_def]
  simp only [cut]

/-- A result settles the run if it is no handshake end or no attempt is left. -/
theorem runFrom_settles
    (ended : (attemptAt hops plan deadline number executions start).result = some (time, result))
    (last : left = 0 ∨ isHandshakeEnd result = false)
    : runFrom hops plan deadline left number executions start
      = {
          outcome := outcomeOf number result
          occurrences :=
            (attemptAt hops plan deadline number executions start).occurrences
              ++ [⟨time, .returned (outcomeOf number result)⟩]
        } := by
  rw [attemptAt] at ended ⊢
  rw [runFrom.eq_def]
  rcases last with rfl | other
  · simp only [ended]
  · cases left <;> simp only [ended, other, Bool.false_eq_true, if_false]

/-- After a handshake end the next attempt is made at once. -/
theorem runFrom_retries
    (ended : (attemptAt hops plan deadline number executions start).result = some (time, result))
    (again : isHandshakeEnd result = true)
    : runFrom hops plan deadline (left + 1) number executions start
      = { runFrom hops plan deadline left (number + 1)
            (if (attemptAt hops plan deadline number executions start).executes
              then executions + 1 else executions) time with
          occurrences :=
            (attemptAt hops plan deadline number executions start).occurrences
              ++ (runFrom hops plan deadline left (number + 1)
                (if (attemptAt hops plan deadline number executions start).executes
                  then executions + 1 else executions) time).occurrences } := by
  rw [attemptAt] at ended ⊢
  rw [runFrom]
  simp only [ended, again, if_true]

/-- What holds of a run in each of the three ways in which it goes on holds of every run, by
induction on how many attempts may follow.
-/
theorem runFrom_induct (hops : Hops) (plan : Plan) (deadline : Nat)
    {motive : (left number executions start : Nat) → Run → Prop}
    (cutOff
      : ∀ left number executions start,
          (attemptAt hops plan deadline number executions start).result = none
          → motive left number executions start
              {
                outcome := .timedOut
                occurrences :=
                  (attemptAt hops plan deadline number executions start).occurrences
                    ++ ⟨deadline, .returned .timedOut⟩
                      :: (attemptAt hops plan deadline number executions start).cleanup
              })
    (settles
      : ∀ left number executions start time result,
          (attemptAt hops plan deadline number executions start).result = some (time, result)
          → left = 0 ∨ isHandshakeEnd result = false
          → motive left number executions start
              {
                outcome := outcomeOf number result
                occurrences :=
                  (attemptAt hops plan deadline number executions start).occurrences
                    ++ [⟨time, .returned (outcomeOf number result)⟩]
              })
    (retries
      : ∀ left number executions start time result later,
          (attemptAt hops plan deadline number executions start).result = some (time, result)
          → isHandshakeEnd result = true
          → motive left (number + 1)
              (if (attemptAt hops plan deadline number executions start).executes
                then executions + 1 else executions) time later
          → motive (left + 1) number executions start
              {
                outcome := later.outcome
                occurrences :=
                  (attemptAt hops plan deadline number executions start).occurrences
                    ++ later.occurrences
              })
    (left number executions start : Nat)
    : motive left number executions start
        (runFrom hops plan deadline left number executions start) := by
  induction left generalizing number executions start with
  | zero =>
      cases ended : (attemptAt hops plan deadline number executions start).result with
      | none => exact runFrom_cutOff ended ▸ cutOff 0 number executions start ended
      | some reached =>
          exact runFrom_settles ended (.inl rfl)
            ▸ settles 0 number executions start _ _ ended (.inl rfl)
  | succ left ih =>
      cases ended : (attemptAt hops plan deadline number executions start).result with
      | none => exact runFrom_cutOff ended ▸ cutOff (left + 1) number executions start ended
      | some reached =>
          cases again : isHandshakeEnd reached.2 with
          | false =>
              exact runFrom_settles ended (.inr again)
                ▸ settles (left + 1) number executions start _ _ ended (.inr again)
          | true =>
              rw [runFrom_retries ended again]
              exact retries left number executions start _ _ _ ended again (ih _ _ _)

end FleetOps.Supervision
