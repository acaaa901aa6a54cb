import FleetOps.Proofs.Supervision.TaskSteps
import Mathlib.Order.Lattice

/-! Every run comes to rest, whatever the schedule. Each move but the passing of time takes
something from what is still ahead, and when time has passed somebody can go on.
-/

namespace FleetOps.Supervision

variable {hops : Hops} {plan : Plan} {deadline : Nat} {choice : Choice} {hopFirst : Bool}
  {schedule : Schedule}

-----------------------------------------------------------------------------------------
-- What is still ahead
-----------------------------------------------------------------------------------------

/-- How many moves the task of an attempt can still make. -/
def Phase.ahead : Phase → Nat
  | spawned => 4
  | dialing _ => 3
  | connected => 2
  | executing _ => 1
  | reported _ => 0
  | lost => 0

/-- How many moves are still ahead of a run at most, the passing of time not counted: those of
the last attempt, those of the attempts that may follow with the spawning of each, and the
return.
-/
def State.ahead (state : State) : Nat :=
  5 * (maxAttempts - state.attempts) + state.phase.ahead
    + if state.returned.isSome then 0 else 1

/-- All tasks of a run are over, whatever is chosen. -/
def State.Rests (hops : Hops) (plan : Plan) (deadline : Nat) (state : State) : Prop :=
  ∀ choice, state.next? hops plan deadline choice = none

/-- A run that rests stays where it is. -/
theorem after_stays {last steps : Nat} (h : last ≤ steps)
    (rests : (State.after hops plan deadline schedule last).Rests hops plan deadline)
    : State.after hops plan deadline schedule steps
      = State.after hops plan deadline schedule last := by
  induction steps, h using Nat.le_induction with
  | base => rfl
  | succ steps _ ih => rw [State.after, State.advance, ih, rests, Option.getD_none]

/-- The state after one more step is the next one, if there is one. -/
theorem after_succ {steps : Nat} {later : State}
    (next
      : (State.after hops plan deadline schedule steps).next? hops plan deadline (schedule steps)
        = some later)
    : State.after hops plan deadline schedule (steps + 1) = later := by
  rw [State.after, State.advance, next, Option.getD_some]

end FleetOps.Supervision
