import FleetOps.Proofs.Supervision.RunSteps
import FleetOps.Supervision.History
import FleetOps.Supervision.Tasks
import Mathlib.Data.ENat.Lattice
import Mathlib.Data.Set.Card

/-! What the scripts of a run say by themselves. Each attempt has a course that nothing cuts
off, and one attempt begins where the one before ended; an attempt that a run makes goes as its
course does, up to the deadline.
-/

namespace FleetOps.Supervision

-----------------------------------------------------------------------------------------
-- The reference
-----------------------------------------------------------------------------------------

namespace Step

variable {α : Type}

/-- Whether a step ends well, sooner or later. -/
def succeeds : Step α → Bool
  | ends _ (.ok _) => true
  | _ => false

/-- What comes of an attempt of that course, if anything ever does. -/
def result? : Step (List UInt8) → Option (Except Failure (List UInt8))
  | ends _ result => some result
  | dies _ => some (.error lostAttempt)
  | hangs => none

end Step

namespace Script

variable (hops : Hops) (plan : Plan) (deadline : Nat)

/-- How the dial of an attempt goes. Attempts are counted from one. -/
def dial (attempt : Nat) : Step Unit :=
  hops.dial (attempt - 1) plan.relay plan.relayCredentials plan.port

/-- How many of the first attempts are given a tunnel. -/
def tunnels : (attempts : Nat) → Nat
  | 0 => 0
  | attempts + 1 =>
      if (dial hops plan (attempts + 1)).succeeds then tunnels attempts + 1
      else tunnels attempts

/-- How an attempt goes that nothing cuts off: its dial, and the next execution after it if
there is a tunnel.
-/
def course (attempt : Nat) : Step (List UInt8) :=
  match dial hops plan attempt with
  | .ends delay (.ok ()) =>
      (hops.execute (tunnels hops plan (attempt - 1)) plan.nodeCredentials
        plan.command).delayed delay
  | .ends delay (.error failure) => .ends delay (.error failure)
  | .dies delay => .dies delay
  | .hangs => .hangs

/-- When the first attempts have all ended, each having begun where the one before ended. -/
def endOf : (attempts : Nat) → Option Nat
  | 0 => some 0
  | attempts + 1 => (endOf attempts).bind (course hops plan (attempts + 1)).over?

/-- Whether the first attempts have all ended before the deadline. -/
def endBefore (attempts : Nat) : Bool := (endOf hops plan attempts).any (· < deadline)

/-- Whether the result of an attempt is that the node ended the handshake. -/
def endsHandshake (attempt : Nat) : Bool := (course hops plan attempt).result?.any isHandshakeEnd

/-- Whether the dial of an attempt is given a tunnel before the deadline. -/
def opensBefore (attempt : Nat) : Bool :=
  (dial hops plan attempt).succeeds
    && ((endOf hops plan (attempt - 1)).bind (dial hops plan attempt).over?).any (· < deadline)

/-- No step of the attempts that a run may come to is over just at the deadline. -/
def Untied : Prop :=
  ∀ attempts < maxAttempts,
    (∀ earlier, 1 ≤ earlier → earlier ≤ attempts → endsHandshake hops plan earlier = true)
    → ∀ start,
        endOf hops plan attempts = some start
        → (dial hops plan (attempts + 1)).over? start ≠ some deadline
          ∧ (course hops plan (attempts + 1)).over? start ≠ some deadline

/-- The first attempt whose result is anything but a handshake end; infinite if there is
none.
-/
noncomputable def decisive : ℕ∞ :=
  ⨅ attempt : {attempt : ℕ // 1 ≤ attempt ∧ endsHandshake hops plan attempt = false},
    (attempt : ℕ∞)

/-- How many attempts begin before the deadline, if only the deadline keeps them from it. -/
noncomputable def begunBefore : ℕ∞ :=
  Set.encard {attempts | endBefore hops plan deadline attempts}

/-- The outcome to which a result amounts that is no handshake end. -/
def verdict : Except Failure (List UInt8) → Outcome
  | .ok output => .succeeded output
  | .error .timeout => .timedOut
  | .error failure => .failed failure

/-- The outcome that the scripts call for. -/
noncomputable def outcome : Outcome :=
  let decider := decisive hops plan
  if decider ≤ 3 then
    if endBefore hops plan deadline decider.toNat then
      (course hops plan decider.toNat).result?.elim .timedOut verdict
    else .timedOut
  else if endBefore hops plan deadline 3 then .failed (.attemptsExhausted 3)
  else .timedOut

end Script

-----------------------------------------------------------------------------------------
-- One attempt of a run, against its course
-----------------------------------------------------------------------------------------

variable {hops : Hops} {plan : Plan} {deadline : Nat}

open Script

/-- The attempt that follows the first attempts, if it begins at `start`. -/
abbrev attemptAfter (hops : Hops) (plan : Plan) (deadline attempts start : Nat) : Attempt :=
  attemptAt hops plan deadline (attempts + 1) (tunnels hops plan attempts) start

/-- The result of an attempt is that of its course, if it is there before the deadline. -/
theorem attemptAfter_result (attempts start : Nat)
    : (attemptAfter hops plan deadline attempts start).result
      = ((course hops plan (attempts + 1)).over? start).bind fun time =>
          if time < deadline then (course hops plan (attempts + 1)).result?.map (time, ·)
          else none := by
  simp only [attemptAt, attempt, course, dial, Nat.add_sub_cancel]
  cases hops.dial attempts plan.relay plan.relayCredentials plan.port with
  | hangs => rfl
  | dies delay =>
      by_cases early : start + delay < deadline <;> simp [early, Step.over?, Step.result?]
  | ends delay result =>
      cases result with
      | error failure =>
          by_cases early : start + delay < deadline <;> simp [early, Step.over?, Step.result?]
      | ok _ =>
          by_cases early : start + delay < deadline
          · cases hops.execute (tunnels hops plan attempts) plan.nodeCredentials plan.command with
            | hangs => simp [early, executePart, Step.delayed, Step.over?]
            | dies more | ends more result =>
                by_cases inTime : start + delay + more < deadline <;>
                  simp [early, executePart, inTime, Step.delayed, Step.over?, Step.result?,
                    ← Nat.add_assoc]
          · cases hops.execute (tunnels hops plan attempts) plan.nodeCredentials plan.command with
            | hangs => simp [early, Step.delayed, Step.over?]
            | dies more | ends more result =>
                have late : ¬ start + delay + more < deadline := by omega
                simp [early, late, Step.delayed, Step.over?, ← Nat.add_assoc]

/-- An attempt that ends does so when its course does, and with its result. -/
theorem attemptAfter_ended {attempts start time : Nat} {result : Except Failure (List UInt8)}
    (ended : (attemptAfter hops plan deadline attempts start).result = some (time, result))
    : (course hops plan (attempts + 1)).over? start = some time
      ∧ time < deadline
      ∧ (course hops plan (attempts + 1)).result? = some result := by
  rw [attemptAfter_result, Option.bind_eq_some_iff] at ended
  obtain ⟨finished, atTime, given⟩ := ended
  split at given
  · next early =>
      obtain ⟨other, there, same⟩ := Option.map_eq_some_iff.mp given
      cases same
      exact ⟨atTime, early, there⟩
  · contradiction

/-- An attempt is cut off only if its course is not over before the deadline. -/
theorem attemptAfter_cutOff {attempts start : Nat}
    (cut : (attemptAfter hops plan deadline attempts start).result = none)
    : ((course hops plan (attempts + 1)).over? start).any (· < deadline) = false := by
  rw [attemptAfter_result] at cut
  cases goes : course hops plan (attempts + 1) with
  | hangs => rfl
  | dies delay | ends delay result => simpa [goes, Step.over?, Step.result?] using cut

/-- The execution part dials nothing, and executes once. -/
theorem executePart_history (number opened : Nat) (step : Step (List UInt8))
    : dialedIn (executePart plan deadline number opened step).occurrences = []
      ∧ dialedIn (executePart plan deadline number opened step).cleanup = []
      ∧ executedIn (executePart plan deadline number opened step).occurrences = [number]
      ∧ executedIn (executePart plan deadline number opened step).cleanup = [] := by
  cases step with
  | hangs => exact ⟨rfl, rfl, rfl, rfl⟩
  | dies delay | ends delay result =>
      simp only [executePart]
      split <;> exact ⟨rfl, rfl, rfl, rfl⟩

/-- An attempt dials once, and executes its command if its dial is given a tunnel before the
deadline.
-/
theorem attempt_history (number start : Nat) (dial : Step Unit) (execution : Step (List UInt8))
    : dialedIn (attempt plan deadline number start dial execution).occurrences = [number]
      ∧ dialedIn (attempt plan deadline number start dial execution).cleanup = []
      ∧ executedIn (attempt plan deadline number start dial execution).occurrences
        = (if dial.succeeds && (dial.over? start).any (· < deadline) then [number] else [])
      ∧ executedIn (attempt plan deadline number start dial execution).cleanup = [] := by
  simp only [attempt]
  cases dial with
  | hangs => exact ⟨rfl, rfl, rfl, rfl⟩
  | dies delay =>
      by_cases early : start + delay < deadline <;>
        simp [early, Step.succeeds, Event.dialed?, Event.executed?]
  | ends delay result =>
      cases result with
      | error failure =>
          by_cases early : start + delay < deadline <;>
            simp [early, Step.succeeds, Event.dialed?, Event.executed?]
      | ok _ =>
          by_cases early : start + delay < deadline
          · obtain ⟨dials, cleanDials, executes, cleanExecutes⟩ :=
              @executePart_history plan deadline number (start + delay) execution
            simp [early, Step.succeeds, Step.over?, dials, cleanDials, executes, cleanExecutes,
              Event.dialed?, Event.executed?]
          · simp [early, Step.succeeds, Step.over?, Event.dialed?, Event.executed?]

/-- An attempt dials once, at its beginning. -/
theorem attemptAt_dialed (hops : Hops) (plan : Plan) (deadline number executions start : Nat)
    : dialedIn (attemptAt hops plan deadline number executions start).occurrences = [number]
      ∧ dialedIn (attemptAt hops plan deadline number executions start).cleanup = [] := by
  obtain ⟨dials, cleanDials, _⟩ :=
    @attempt_history plan deadline number start
      (hops.dial (number - 1) plan.relay plan.relayCredentials plan.port)
      (hops.execute executions plan.nodeCredentials plan.command)
  exact ⟨dials, cleanDials⟩

/-- An attempt comes to execute the command if that is among what happens in it. -/
theorem Attempt.executes_eq (attempt : Attempt)
    : attempt.executes = !(executedIn attempt.occurrences).isEmpty := by
  simp only [Attempt.executes]
  induction attempt.occurrences with
  | nil => rfl
  | cons head rest ih =>
      obtain ⟨time, event⟩ := head
      cases event <;> simp [ih, Event.executed?]

/-- An attempt that comes to execute the command does so once. -/
theorem attemptAt_executed {number executions start : Nat}
    (executes : (attemptAt hops plan deadline number executions start).executes = true)
    : executedIn (attemptAt hops plan deadline number executions start).occurrences
      = [number] := by
  obtain ⟨_, _, executed, _⟩ :=
    @attempt_history plan deadline number start
      (hops.dial (number - 1) plan.relay plan.relayCredentials plan.port)
      (hops.execute executions plan.nodeCredentials plan.command)
  rw [Attempt.executes_eq] at executes
  rw [attemptAt] at executes ⊢
  split at executed
  · exact executed
  · rw [executed] at executes
    contradiction

/-- A course that follows another ends when it is over, from the end of that one on. -/
theorem endOf_succ {attempts start : Nat} (ended : endOf hops plan attempts = some start)
    : endOf hops plan (attempts + 1) = (course hops plan (attempts + 1)).over? start := by
  rw [endOf, ended, Option.bind_some]

/-- An attempt with a result is a handshake end if the result is one. -/
theorem endsHandshake_eq {attempt : Nat} {result : Except Failure (List UInt8)}
    (given : (course hops plan attempt).result? = some result)
    : endsHandshake hops plan attempt = isHandshakeEnd result := by
  rw [endsHandshake, given, Option.any_some]

/-- A dial that is given a tunnel in a course that ends in time is given it in time. -/
theorem opensBefore_eq {attempts start time : Nat} (ended : endOf hops plan attempts = some start)
    (finished : (course hops plan (attempts + 1)).over? start = some time)
    (inTime : time < deadline)
    : opensBefore hops plan deadline (attempts + 1)
      = (dial hops plan (attempts + 1)).succeeds := by
  simp only [opensBefore, Nat.add_sub_cancel, ended, Option.bind_some]
  simp only [course] at finished
  cases goes : dial hops plan (attempts + 1) with
  | hangs | dies => rfl
  | ends delay result =>
      cases result with
      | error failure => rfl
      | ok _ =>
          have early : start + delay < deadline := by
            rw [goes] at finished
            cases execution : hops.execute (tunnels hops plan attempts) plan.nodeCredentials
                plan.command with
            | hangs => simp [execution, Step.delayed, Step.over?] at finished
            | dies more | ends more result =>
                simp only [Nat.add_sub_cancel, execution, Step.delayed, Step.over?,
                  Option.some.injEq] at finished
                omega
          simp [Step.succeeds, Step.over?, early]

/-- An attempt of a run dials once, and executes its command if its dial is given a tunnel
before the deadline.
-/
theorem attemptAfter_history {attempts start : Nat} (ended : endOf hops plan attempts = some start)
    : dialedIn (attemptAfter hops plan deadline attempts start).occurrences = [attempts + 1]
      ∧ dialedIn (attemptAfter hops plan deadline attempts start).cleanup = []
      ∧ executedIn (attemptAfter hops plan deadline attempts start).occurrences
        = (if opensBefore hops plan deadline (attempts + 1) then [attempts + 1] else [])
      ∧ executedIn (attemptAfter hops plan deadline attempts start).cleanup = [] := by
  have opens : opensBefore hops plan deadline (attempts + 1)
      = ((dial hops plan (attempts + 1)).succeeds
        && ((dial hops plan (attempts + 1)).over? start).any (· < deadline)) := by
    simp [opensBefore, ended]
  rw [opens]
  exact attempt_history _ _ _ _

-----------------------------------------------------------------------------------------
-- All attempts of a run
-----------------------------------------------------------------------------------------

/-- A run comes to another attempt in time, after handshake ends only. -/
structure Begins (hops : Hops) (plan : Plan) (deadline left attempts start : Nat) : Prop where
  ended : endOf hops plan attempts = some start
  early : start < deadline
  retried
    : ∀ earlier, 1 ≤ earlier → earlier ≤ attempts → endsHandshake hops plan earlier = true
  count : attempts + 1 + left = maxAttempts

/-- After another handshake end a run comes to the attempt after that, and its next execution
is that of the next tunnel.
-/
theorem Begins.retries {left attempts start time : Nat} {result : Except Failure (List UInt8)}
    (h : Begins hops plan deadline (left + 1) attempts start)
    (ended : (attemptAfter hops plan deadline attempts start).result = some (time, result))
    (again : isHandshakeEnd result = true)
    : Begins hops plan deadline left (attempts + 1) time
      ∧ (if (attemptAfter hops plan deadline attempts start).executes
          then tunnels hops plan attempts + 1 else tunnels hops plan attempts)
        = tunnels hops plan (attempts + 1) := by
  obtain ⟨_, _, executes, _⟩ := @attemptAfter_history hops plan deadline attempts start h.ended
  obtain ⟨finished, inTime, given⟩ := attemptAfter_ended ended
  have count := h.count
  refine ⟨⟨(endOf_succ h.ended).trans finished, inTime, fun earlier first upTo => ?_, by omega⟩,
    ?_⟩
  · rcases Nat.eq_or_lt_of_le upTo with rfl | before
    · exact (endsHandshake_eq given).trans again
    · exact h.retried earlier first (Nat.le_of_lt_succ before)
  · rw [Attempt.executes_eq, executes, opensBefore_eq h.ended finished inTime, tunnels]
    cases (dial hops plan (attempts + 1)).succeeds <;> simp

/-- What holds of a run in each of the three ways in which it goes on from an attempt to which
it comes holds of it from the first attempt on, by induction on how many may follow.
-/
theorem runFrom_begins_induct (hops : Hops) (plan : Plan) (deadline : Nat)
    {motive : (left attempts start : Nat) → Run → Prop}
    (cutOff
      : ∀ left attempts start,
          Begins hops plan deadline left attempts start
          → (attemptAfter hops plan deadline attempts start).result = none
          → motive left attempts start
              {
                outcome := .timedOut
                occurrences :=
                  (attemptAfter hops plan deadline attempts start).occurrences
                    ++ ⟨deadline, .returned .timedOut⟩
                      :: (attemptAfter hops plan deadline attempts start).cleanup
              })
    (settles
      : ∀ left attempts start time result,
          Begins hops plan deadline left attempts start
          → (attemptAfter hops plan deadline attempts start).result = some (time, result)
          → left = 0 ∨ isHandshakeEnd result = false
          → motive left attempts start
              {
                outcome := outcomeOf (attempts + 1) result
                occurrences :=
                  (attemptAfter hops plan deadline attempts start).occurrences
                    ++ [⟨time, .returned (outcomeOf (attempts + 1) result)⟩]
              })
    (retries
      : ∀ left attempts start time result later,
          Begins hops plan deadline (left + 1) attempts start
          → (attemptAfter hops plan deadline attempts start).result = some (time, result)
          → isHandshakeEnd result = true
          → motive left (attempts + 1) time later
          → motive (left + 1) attempts start
              {
                outcome := later.outcome
                occurrences :=
                  (attemptAfter hops plan deadline attempts start).occurrences
                    ++ later.occurrences
              })
    {left attempts start : Nat} (begins : Begins hops plan deadline left attempts start)
    : motive left attempts start
        (runFrom hops plan deadline left (attempts + 1) (tunnels hops plan attempts) start) := by
  refine runFrom_induct hops plan deadline
    (motive := fun left number executions start run =>
      ∀ attempts,
        Begins hops plan deadline left attempts start
        → number = attempts + 1
        → executions = tunnels hops plan attempts
        → motive left attempts start run)
    ?_ ?_ ?_ left (attempts + 1) (tunnels hops plan attempts) start attempts begins rfl rfl
  · rintro left _ _ start cut attempts begins rfl rfl
    exact cutOff left attempts start begins cut
  · rintro left _ _ start time result ended last attempts begins rfl rfl
    exact settles left attempts start time result begins ended last
  · rintro left _ _ start time result later ended again ih attempts begins rfl rfl
    obtain ⟨next, tunnel⟩ := begins.retries ended again
    exact retries left attempts start time result later begins ended again
      (ih (attempts + 1) next rfl tunnel)

end FleetOps.Supervision
