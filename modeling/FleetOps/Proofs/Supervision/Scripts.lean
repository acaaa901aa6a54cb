import FleetOps.Proofs.Supervision.Links

/-! What a run does, read off its scripts alone: the first attempt that is anything but a
handshake end decides, if it comes among the first three and in time.
-/

namespace FleetOps.Supervision

variable {hops : Hops} {plan : Plan} {deadline : Nat}

open Script

-----------------------------------------------------------------------------------------
-- All attempts of a run
-----------------------------------------------------------------------------------------

/-- A run from an attempt on: which attempt is the last, and that all before it were handshake
ends. It is the last because the deadline cuts it off, because its result settles the run, or
because no attempt may follow it.
-/
structure Shape (hops : Hops) (plan : Plan) (deadline first last : Nat) (run : Run) : Prop where
  nonempty : first ≤ last
  most : last ≤ maxAttempts
  retried
    : ∀ attempt, first ≤ attempt → attempt < last
      → endsHandshake hops plan attempt = true
  begun : endBefore hops plan deadline (last - 1) = true
  dialed : dialedIn run.occurrences = List.range' first (last + 1 - first)
  executed
    : executedIn run.occurrences
      = (List.range' first (last + 1 - first)).filter (opensBefore hops plan deadline)
  cutOff : endBefore hops plan deadline last = false → run.outcome = .timedOut
  settled
    : endBefore hops plan deadline last = true
      → (last = maxAttempts ∨ endsHandshake hops plan last = false)
        ∧ ∃ result,
            (course hops plan last).result? = some result
            ∧ run.outcome = outcomeOf last result

/-- A run has a shape from each of its attempts on, by induction on how many may follow. -/
theorem runFrom_shape {left attempts start : Nat}
    (begins : Begins hops plan deadline left attempts start)
    : ∃ last,
        Shape hops plan deadline (attempts + 1) last
          (runFrom hops plan deadline left (attempts + 1) (tunnels hops plan attempts) start) := by
  refine runFrom_begins_induct hops plan deadline
    (motive := fun _ attempts _ run => ∃ last, Shape hops plan deadline (attempts + 1) last run)
    ?cutOff ?settles ?retries begins
  case cutOff =>
    rintro left attempts start ⟨ended, early, _, count⟩ cut
    obtain ⟨dials, cleanDials, executes, cleanExecutes⟩ :=
      @attemptAfter_history hops plan deadline attempts start ended
    have late := attemptAfter_cutOff cut
    rw [← endOf_succ ended] at late
    exact ⟨attempts + 1, {
      nonempty := Nat.le_refl _
      most := by omega
      retried := fun attempt first before => by omega
      begun := by simp [endBefore, ended, early]
      dialed := by simp [dials, cleanDials, Event.dialed?]
      executed := by simp [executes, cleanExecutes, Event.executed?, List.filter_cons]
      cutOff := fun _ => rfl
      settled := fun inTime => by simp [endBefore, late] at inTime
    }⟩
  case settles =>
    rintro left attempts start time reply ⟨ended, early, _, count⟩ result final
    obtain ⟨dials, _, executes, _⟩ :=
      @attemptAfter_history hops plan deadline attempts start ended
    obtain ⟨finished, inTime, given⟩ := attemptAfter_ended result
    exact ⟨attempts + 1, {
      nonempty := Nat.le_refl _
      most := by omega
      retried := fun attempt first before => by omega
      begun := by simp [endBefore, ended, early]
      dialed := by simp [dials, Event.dialed?]
      executed := by simp [executes, Event.executed?, List.filter_cons]
      cutOff := fun late => by simp [endBefore, endOf_succ ended, finished, inTime] at late
      settled := fun _ => by
        refine ⟨final.imp (by omega) fun other => ?_, reply, given, rfl⟩
        rw [endsHandshake_eq given, other]
    }⟩
  case retries =>
    rintro left attempts start time reply later ⟨ended, _, _, _⟩ result again ⟨last, shape⟩
    obtain ⟨dials, _, executes, _⟩ :=
      @attemptAfter_history hops plan deadline attempts start ended
    obtain ⟨_, _, given⟩ := attemptAfter_ended result
    have beyond := shape.nonempty
    have span : last + 1 - (attempts + 1) = last + 1 - (attempts + 1 + 1) + 1 := by omega
    exact ⟨last, {
      nonempty := by omega
      most := shape.most
      retried := fun attempt first before => by
        rcases Nat.eq_or_lt_of_le first with rfl | past
        · exact (endsHandshake_eq given).trans again
        · exact shape.retried attempt past before
      begun := shape.begun
      dialed := by
        simp only [attemptsIn_append, dials, shape.dialed, span, List.range'_succ]
        rfl
      executed := by
        simp only [attemptsIn_append, executes, shape.executed, span, List.range'_succ,
          List.filter_cons]
        cases opensBefore hops plan deadline (attempts + 1) <;> rfl
      cutOff := shape.cutOff
      settled := shape.settled
    }⟩

-----------------------------------------------------------------------------------------
-- Which attempt decides, and how many begin
-----------------------------------------------------------------------------------------

/-- A step is not over before it begins. -/
theorem Step.le_over? {α : Type} {step : Step α} {start time : Nat}
    (finished : step.over? start = some time)
    : start ≤ time := by
  cases step with
  | hangs => contradiction
  | dies delay | ends delay result =>
      cases finished
      exact Nat.le_add_right start delay

/-- Attempts that have ended in time have done so after all those before them have. -/
theorem endBefore_of_le {fewer attempts : Nat} (h : fewer ≤ attempts)
    (inTime : endBefore hops plan deadline attempts = true)
    : endBefore hops plan deadline fewer = true := by
  induction attempts, h using Nat.le_induction with
  | base => exact inTime
  | succ attempts _ ih =>
      apply ih
      simp only [endBefore, endOf, Option.any_eq_true] at inTime ⊢
      obtain ⟨time, finished, early⟩ := inTime
      obtain ⟨start, ended, after⟩ := Option.bind_eq_some_iff.mp finished
      have earlier := (Step.le_over? after).trans_lt (of_decide_eq_true early)
      exact ⟨start, ended, decide_eq_true earlier⟩

/-- Once an attempt does not end in time, none after it does. -/
theorem endBefore_late {fewer attempts : Nat} (h : fewer ≤ attempts)
    (late : endBefore hops plan deadline fewer = false)
    : endBefore hops plan deadline attempts = false := by
  by_contra inTime
  rw [endBefore_of_le h (eq_true_of_ne_false inTime)] at late
  contradiction

/-- As many attempts begin as the one that begins last. -/
theorem le_begunBefore {attempts : Nat} (inTime : endBefore hops plan deadline attempts = true)
    : ((attempts + 1 : ℕ) : ℕ∞) ≤ begunBefore hops plan deadline := by
  rw [← Set.Nat.encard_range (attempts + 1)]
  exact Set.encard_le_encard fun fewer h => endBefore_of_le (Nat.le_of_lt_succ h) inTime

/-- Nothing begins after the first attempt that does not end in time. -/
theorem begunBefore_eq {attempts : Nat} (begun : endBefore hops plan deadline attempts = true)
    (late : endBefore hops plan deadline (attempts + 1) = false)
    : begunBefore hops plan deadline = ((attempts + 1 : ℕ) : ℕ∞) := by
  refine le_antisymm ?_ (le_begunBefore begun)
  rw [← Set.Nat.encard_range (attempts + 1)]
  refine Set.encard_le_encard fun more inTime => ?_
  by_contra past
  exact Bool.eq_false_iff.mp (endBefore_late (Nat.le_of_not_lt past) late) inTime

/-- The attempt that decides comes no sooner than handshake ends are left behind. -/
theorem le_decisive {attempts : Nat}
    (retried
      : ∀ attempt, 1 ≤ attempt → attempt < attempts
        → endsHandshake hops plan attempt = true)
    : (attempts : ℕ∞) ≤ decisive hops plan := by
  refine le_iInf fun ⟨attempt, first, other⟩ => ?_
  rw [Nat.cast_le]
  by_contra before
  rw [retried attempt first (Nat.lt_of_not_le before)] at other
  contradiction

/-- The first attempt that is no handshake end decides. -/
theorem decisive_eq {attempts : Nat} (first : 1 ≤ attempts)
    (retried
      : ∀ attempt, 1 ≤ attempt → attempt < attempts
        → endsHandshake hops plan attempt = true)
    (other : endsHandshake hops plan attempts = false)
    : decisive hops plan = attempts :=
  le_antisymm (iInf_le_of_le ⟨attempts, first, other⟩ le_rfl) (le_decisive retried)

/-- The scripts call for a timeout if an attempt is late that no earlier one decides. -/
theorem outcome_eq_timedOut {attempts : Nat} (most : attempts ≤ 3)
    (decider : (attempts : ℕ∞) ≤ decisive hops plan)
    (late : endBefore hops plan deadline attempts = false)
    : Script.outcome hops plan deadline = .timedOut := by
  simp only [Script.outcome]
  split
  · next within =>
      obtain ⟨attempt, decides⟩ :=
        ENat.ne_top_iff_exists.mp (ne_top_of_le_ne_top (ENat.natCast_ne_top 3) within)
      rw [← decides, Nat.cast_le] at decider
      rw [← decides, ENat.toNat_natCast, endBefore_late decider late]
      rfl
  · rw [endBefore_late most late]
    rfl

/-- Any result but a handshake end is the verdict of the run. -/
theorem outcomeOf_eq_verdict {attempts : Nat} {result : Except Failure (List UInt8)}
    (other : isHandshakeEnd result = false)
    : outcomeOf attempts result = verdict result := by
  rcases result with failure | output
  · cases failure <;> first | rfl | contradiction
  · rfl

/-- A handshake end of the last attempt means that the attempts are exhausted. -/
theorem outcomeOf_eq_exhausted {attempts : Nat} {result : Except Failure (List UInt8)}
    (again : isHandshakeEnd result = true)
    : outcomeOf attempts result = .failed (.attemptsExhausted attempts) := by
  rcases result with failure | output
  · cases failure <;> first | rfl | contradiction
  · contradiction

-----------------------------------------------------------------------------------------
-- The run against the reference
-----------------------------------------------------------------------------------------

/-- The dials of a run are the attempts that it lists as dialed. -/
theorem Run.dials_eq (run : Run) : run.dials = (dialedIn run.occurrences).length := by
  simp only [Run.dials]
  induction run.occurrences with
  | nil => rfl
  | cons head rest ih =>
      obtain ⟨time, event⟩ := head
      cases event <;> simp [ih, Event.dialed?, Nat.add_comm]

/-- The executions of a run are the attempts that it lists as executed. -/
theorem Run.executions_eq (run : Run)
    : run.executions = (executedIn run.occurrences).length := by
  simp only [Run.executions]
  induction run.occurrences with
  | nil => rfl
  | cons head rest ih =>
      obtain ⟨time, event⟩ := head
      cases event <;> simp [ih, Event.executed?, Nat.add_comm]

/-- A run as the scripts call for it: its outcome, as many dials as it takes to decide, but at
most three and only before the deadline, and an execution for each of them that is given a
tunnel in time. Without any time no attempt begins before the deadline, yet the first may still
be dialed.
-/
structure FollowsScripts (hops : Hops) (plan : Plan) (deadline : Nat) (run : Run) : Prop where
  outcome : run.outcome = Script.outcome hops plan deadline
  dials
    : (run.dials : ℕ∞) = min (min (decisive hops plan) 3) (begunBefore hops plan deadline)
      ∨ deadline = 0 ∧ run.dials = 1
  executions
    : run.executions = (List.range' 1 run.dials).countP (opensBefore hops plan deadline)

/-- A run of some shape from the first attempt on follows its scripts. -/
theorem Shape.followsScripts {last : Nat} {run : Run}
    (shape : Shape hops plan deadline 1 last run)
    : FollowsScripts hops plan deadline run := by
  have dials : run.dials = last := by
    rw [Run.dials_eq, shape.dialed, List.length_range', Nat.add_sub_cancel]
  have executions : run.executions
      = (List.range' 1 run.dials).countP (opensBefore hops plan deadline) := by
    rw [Run.executions_eq, shape.executed, dials, Nat.add_sub_cancel,
      List.countP_eq_length_filter]
  obtain ⟨before, rfl⟩ :=
    Nat.exists_eq_succ_of_ne_zero (Nat.one_le_iff_ne_zero.mp shape.nonempty)
  have decider : ((before + 1 : ℕ) : ℕ∞) ≤ decisive hops plan := le_decisive shape.retried
  have most : ((before + 1 : ℕ) : ℕ∞) ≤ 3 := by
    exact_mod_cast shape.most
  have begun : endBefore hops plan deadline before = true := shape.begun
  cases inTime : endBefore hops plan deadline (before + 1) with
  | false =>
      refine ⟨?_, .inl ?_, executions⟩
      · rw [shape.cutOff inTime, outcome_eq_timedOut shape.most decider inTime]
      · rw [dials, begunBefore_eq begun inTime, min_eq_right (le_min decider most)]
  | true =>
      obtain ⟨final, result, given, settled⟩ := shape.settled inTime
      have all : ((before + 1 : ℕ) : ℕ∞) ≤ begunBefore hops plan deadline :=
        le_begunBefore begun
      cases again : endsHandshake hops plan (before + 1) with
      | false =>
          have decides := decisive_eq shape.nonempty shape.retried again
          refine ⟨?_, .inl ?_, executions⟩
          · have other := (endsHandshake_eq given).symm.trans again
            simp only [Script.outcome, decides, if_pos most, ENat.toNat_natCast, inTime, if_true,
              given, Option.elim_some, settled, outcomeOf_eq_verdict other]
          · rw [dials, decides, min_eq_left most, min_eq_left all]
      | true =>
          obtain rfl : before = 2 := Nat.succ_injective (final.resolve_right (by simp [again]))
          have ended := (endsHandshake_eq given).symm.trans again
          have more : ((3 + 1 : ℕ) : ℕ∞) ≤ decisive hops plan := by
            refine le_decisive fun attempt first past => ?_
            rcases Nat.eq_or_lt_of_le (Nat.le_of_lt_succ past) with rfl | earlier
            · exact again
            · exact shape.retried attempt first earlier
          have beyond : (3 : ℕ∞) < decisive hops plan :=
            lt_of_lt_of_le (by exact_mod_cast Nat.lt_succ_self 3) more
          refine ⟨?_, .inl ?_, executions⟩
          · simp only [Script.outcome, if_neg (not_le_of_gt beyond), inTime, if_true, settled,
              outcomeOf_eq_exhausted ended]
          · rw [min_eq_right beyond.le, min_eq_left (by exact_mod_cast all), dials]
            rfl

/-- With some time a run follows its scripts, whatever they are. -/
theorem run_follows (hops : Hops) (plan : Plan) (early : 0 < deadline)
    : FollowsScripts hops plan deadline (run hops plan deadline) := by
  obtain ⟨last, shape⟩ := @runFrom_shape hops plan deadline _ 0 0 (.first early)
  exact shape.followsScripts

/-- If the first attempt of a run ends in time with a failure, that is either a handshake end, and
there is another dial, or it settles the run.
-/
theorem run_firstFails {time : Nat} {failure : Failure}
    (goes : course hops plan 1 = .ends time (.error failure)) (inTime : time < deadline)
    : (failure.isHandshakeEnd = true → 2 ≤ (run hops plan deadline).dials)
      ∧ (failure.isHandshakeEnd = false
        → (run hops plan deadline).dials = 1
          ∧ (run hops plan deadline).outcome = verdict (.error failure)) := by
  obtain ⟨outcome, counted, _⟩ := run_follows hops plan (Nat.zero_lt_of_lt inTime)
  have dials := counted.resolve_right fun none => by omega
  have ended : endsHandshake hops plan 1 = failure.isHandshakeEnd :=
    endsHandshake_eq (by rw [goes, Step.result?])
  have early : endBefore hops plan deadline 1 = true := by
    simp [endBefore, endOf, goes, Step.over?, inTime]
  have begun : ((2 : ℕ) : ℕ∞) ≤ begunBefore hops plan deadline := le_begunBefore early
  constructor
  · intro again
    have more : ((2 : ℕ) : ℕ∞) ≤ decisive hops plan := by
      refine le_decisive fun attempt first before => ?_
      obtain rfl : attempt = 1 := by omega
      exact ended.trans again
    have within : ((2 : ℕ) : ℕ∞) ≤ 3 := by exact_mod_cast Nat.le_succ 2
    have many : ((2 : ℕ) : ℕ∞) ≤ (run hops plan deadline).dials := by
      rw [dials]
      exact le_min (le_min more within) begun
    exact_mod_cast many
  · intro other
    have decides : decisive hops plan = (1 : ℕ) :=
      decisive_eq (Nat.le_refl 1) (fun attempt first before => by omega) (ended.trans other)
    have within : ((1 : ℕ) : ℕ∞) ≤ 3 := by exact_mod_cast Nat.le_add_left 1 2
    have one : ((1 : ℕ) : ℕ∞) ≤ begunBefore hops plan deadline :=
      le_trans (by exact_mod_cast Nat.le_succ 1) begun
    constructor
    · rw [decides, min_eq_left within, min_eq_left one] at dials
      exact_mod_cast dials
    · rw [outcome]
      simp only [Script.outcome, decides, if_pos within, ENat.toNat_natCast, early, if_true, goes,
        Step.result?, Option.elim_some]

end FleetOps.Supervision
