import FleetOps.Supervision.Tasks
import Mathlib.Logic.Relation

/-! What one step of the tasks of a run can do, whatever is chosen. Every fact about the states
of a run is proved from this list of moves, and every path through them is put together from
single steps.
-/

namespace FleetOps.Supervision

variable {hops : Hops} {plan : Plan} {deadline : Nat} {choice : Choice} {hopFirst : Bool}

-----------------------------------------------------------------------------------------
-- Who has to wait
-----------------------------------------------------------------------------------------

/-- Nobody can go on: the supervisor waits or has returned, and so it is with the task of the
attempt, whatever it looks at first.
-/
structure State.Waits (hops : Hops) (plan : Plan) (deadline : Nat) (state : State) : Prop where
  supervisor : state.wakeSupervisor? deadline = none
  attempt : ∀ hopFirst, state.wakeAttempt? hops plan hopFirst = none

/-- The task of an attempt that has to wait with one choice has to wait with any, since a
cancelled token lets it go on in either case.
-/
theorem State.wakeAttempt_none {state : State}
    (waits : state.wakeAttempt? hops plan hopFirst = none) (other : Bool)
    : state.wakeAttempt? hops plan other = none := by
  unfold State.wakeAttempt? at waits ⊢
  cases phase : state.phase with
  | spawned | connected =>
      simp only [phase] at waits
      split at waits <;> contradiction
  | dialing began =>
      simp only [phase] at waits ⊢
      cases progress : (state.dialStep hops plan).progress began state.clock with
      | pending =>
          cases live : state.cancelled <;> cases hopFirst <;>
            simp [progress, live] at waits ⊢
      | died =>
          simp only [progress] at waits
          split at waits <;> contradiction
      | ended result =>
          simp only [progress] at waits
          split at waits
          · contradiction
          · cases result <;> contradiction
  | executing began =>
      simp only [phase] at waits ⊢
      cases progress : (state.executionStep hops plan).progress began state.clock with
      | pending =>
          cases live : state.cancelled <;> cases hopFirst <;>
            simp [progress, live] at waits ⊢
      | died | ended =>
          simp only [progress] at waits
          split at waits <;> contradiction
  | reported | lost => rfl

/-- Whoever is asked first, there is nobody to wake just if both have to wait. -/
theorem State.woken_none {state : State}
    : (if choice.attemptFirst then
          (state.wakeAttempt? hops plan choice.hopFirst).or (state.wakeSupervisor? deadline)
        else
          (state.wakeSupervisor? deadline).or (state.wakeAttempt? hops plan choice.hopFirst))
        = none
      ↔ state.Waits hops plan deadline := by
  constructor
  · intro waits
    split at waits
    · obtain ⟨attempt, supervisor⟩ := Option.or_eq_none_iff.mp waits
      exact ⟨supervisor, wakeAttempt_none attempt⟩
    · obtain ⟨supervisor, attempt⟩ := Option.or_eq_none_iff.mp waits
      exact ⟨supervisor, wakeAttempt_none attempt⟩
  · rintro ⟨supervisor, attempt⟩
    rw [supervisor, attempt]
    split <;> rfl

/-- A step of a run is one of the supervisor, one of the attempt, or the passing of time when
neither can go on.
-/
theorem State.next_cases {state later : State}
    (h : state.next? hops plan deadline choice = some later)
    : state.wakeSupervisor? deadline = some later
      ∨ state.wakeAttempt? hops plan choice.hopFirst = some later
      ∨ state.Waits hops plan deadline ∧ state.passTime? hops plan deadline = some later := by
  simp only [next?, Option.or_eq_some_iff, woken_none] at h
  rcases h with woken | passes
  · split at woken
    · rcases Option.or_eq_some_iff.mp woken with attempt | ⟨_, supervisor⟩
      · exact .inr (.inl attempt)
      · exact .inl supervisor
    · rcases Option.or_eq_some_iff.mp woken with supervisor | ⟨_, attempt⟩
      · exact .inl supervisor
      · exact .inr (.inl attempt)
  · exact .inr (.inr passes)

/-- If both have to wait then time passes. -/
theorem State.Waits.next {state : State} (waits : state.Waits hops plan deadline)
    : state.next? hops plan deadline choice = state.passTime? hops plan deadline := by
  simp only [next?, waits.supervisor, waits.attempt, Option.or_none, ite_self, Option.none_or]

/-- If the attempt has to wait then the supervisor takes its turn. -/
theorem State.next_supervisor {state later : State}
    (attempt : state.wakeAttempt? hops plan choice.hopFirst = none)
    (supervisor : state.wakeSupervisor? deadline = some later)
    : state.next? hops plan deadline choice = some later := by
  simp only [next?, attempt, supervisor, Option.or_none, Option.none_or, ite_self, Option.some_or]

/-- If the supervisor has to wait then the attempt takes its turn. -/
theorem State.next_attempt {state later : State}
    (supervisor : state.wakeSupervisor? deadline = none)
    (attempt : state.wakeAttempt? hops plan choice.hopFirst = some later)
    : state.next? hops plan deadline choice = some later := by
  simp only [next?, attempt, supervisor, Option.or_none, Option.none_or, ite_self, Option.some_or]

-----------------------------------------------------------------------------------------
-- All moves
-----------------------------------------------------------------------------------------

/-- The moves of a run, with what is known when each of them is made. -/
inductive Move (hops : Hops) (plan : Plan) (deadline : Nat) (state : State) : State → Prop
  | retry {result} (waiting : state.returned = none)
    (received : state.phase.received? = some result)
    (again : isHandshakeEnd result = true) (left : state.attempts < maxAttempts)
    : Move hops plan deadline state state.spawnNext
  | settle {result} (waiting : state.returned = none)
    (received : state.phase.received? = some result)
    : Move hops plan deadline state (state.finish (outcomeOf state.attempts result))
  | expire (waiting : state.returned = none) (unreceived : state.phase.received? = none)
    : Move hops plan deadline state (state.finish .timedOut)
  | dial (fresh : state.phase = .spawned)
    : Move hops plan deadline state (state.beginDial plan)
  | abandon (before : state.phase = .spawned ∨ ∃ began, state.phase = .dialing began)
    : Move hops plan deadline state (state.report (.error .timeout))
  | dialDies {began} (dialing : state.phase = .dialing began)
    : Move hops plan deadline state state.die
  | dialFails {began failure} (dialing : state.phase = .dialing began)
    : Move hops plan deadline state (state.report (.error failure))
  | dialOpens {began delay} (dialing : state.phase = .dialing began)
    (goes : state.dialStep hops plan = .ends delay (.ok ()))
    : Move hops plan deadline state state.openTunnel
  | execute (connected : state.phase = .connected)
    : Move hops plan deadline state (state.beginExecution plan)
  | cut (tunneled : state.phase = .connected ∨ ∃ began, state.phase = .executing began)
    : Move hops plan deadline state (state.closeAndReport (.error .timeout))
  | executionDies {began delay} (executing : state.phase = .executing began)
    (goes : state.executionStep hops plan = .dies delay)
    : Move hops plan deadline state state.dieOpen
  | executionEnds {began result} (executing : state.phase = .executing began)
    : Move hops plan deadline state (state.closeAndReport result)
  | pass {time} (waits : state.Waits hops plan deadline)
    (due : time ∈ state.timers hops plan deadline)
    : Move hops plan deadline state (state.setClock time)

/-- Each move of the supervisor is in the list, by the cases of its wake-up. -/
theorem Move.of_wakeSupervisor {state later : State}
    (h : state.wakeSupervisor? deadline = some later)
    : Move hops plan deadline state later := by
  unfold State.wakeSupervisor? at h
  cases waiting : state.returned with
  | some outcome => simp [waiting] at h
  | none =>
      cases received : state.phase.received? with
      | none =>
          simp only [waiting, received, Option.ite_none_right_eq_some, Option.some.injEq] at h
          exact h.2 ▸ .expire waiting received
      | some result =>
          simp only [waiting, received] at h
          split at h
          · next again =>
              simp only [Bool.and_eq_true, decide_eq_true_eq] at again
              cases h
              exact .retry waiting received again.1 again.2
          · cases h
            exact .settle waiting received

/-- A step has a result only if it is one that ends with it. -/
theorem Step.ends_of_progress {α : Type} {step : Step α} {began now : Nat}
    {result : Except Failure α} (h : step.progress began now = .ended result)
    : ∃ delay, step = .ends delay result := by
  cases step with
  | ends delay given =>
      simp only [Step.progress] at h
      split at h
      · cases h
        exact ⟨delay, rfl⟩
      · contradiction
  | dies delay =>
      simp only [Step.progress] at h
      split at h <;> contradiction
  | hangs => contradiction

/-- A step is found dead only if it is one that dies. -/
theorem Step.dies_of_progress {α : Type} {step : Step α} {began now : Nat}
    (h : step.progress began now = .died)
    : ∃ delay, step = .dies delay := by
  cases step with
  | ends delay result =>
      simp only [Step.progress] at h
      split at h <;> contradiction
  | dies delay => exact ⟨delay, rfl⟩
  | hangs => contradiction

/-- Each move of an attempt is in the list, by the cases of its wake-up. -/
theorem Move.of_wakeAttempt {state later : State}
    (h : state.wakeAttempt? hops plan hopFirst = some later)
    : Move hops plan deadline state later := by
  unfold State.wakeAttempt? at h
  cases phase : state.phase with
  | spawned =>
      simp only [phase] at h
      split at h <;> cases h
      · exact .abandon (.inl phase)
      · exact .dial phase
  | dialing began =>
      simp only [phase] at h
      split at h
      · cases h
        exact .abandon (.inr ⟨began, phase⟩)
      · cases progress : (state.dialStep hops plan).progress began state.clock with
        | pending =>
            simp only [progress, Option.ite_none_right_eq_some, Option.some.injEq] at h
            exact h.2 ▸ .abandon (.inr ⟨began, phase⟩)
        | died =>
            simp only [progress, Option.some.injEq] at h
            exact h ▸ .dialDies phase
        | ended result =>
            cases result with
            | error failure =>
                simp only [progress, Option.some.injEq] at h
                exact h ▸ .dialFails phase
            | ok _ =>
                simp only [progress, Option.some.injEq] at h
                obtain ⟨delay, goes⟩ := Step.ends_of_progress progress
                exact h ▸ .dialOpens phase goes
  | connected =>
      simp only [phase] at h
      split at h <;> cases h
      · exact .cut (.inl phase)
      · exact .execute phase
  | executing began =>
      simp only [phase] at h
      split at h
      · cases h
        exact .cut (.inr ⟨began, phase⟩)
      · cases progress : (state.executionStep hops plan).progress began state.clock with
        | pending =>
            simp only [progress, Option.ite_none_right_eq_some, Option.some.injEq] at h
            exact h.2 ▸ .cut (.inr ⟨began, phase⟩)
        | died =>
            simp only [progress, Option.some.injEq] at h
            obtain ⟨delay, goes⟩ := Step.dies_of_progress progress
            exact h ▸ .executionDies phase goes
        | ended result =>
            simp only [progress, Option.some.injEq] at h
            exact h ▸ .executionEnds phase
  | reported result => simp [phase] at h
  | lost => simp [phase] at h

/-- Each step of a run is in the list of moves, whatever is chosen. -/
theorem Move.of_next {state later : State}
    (h : state.next? hops plan deadline choice = some later)
    : Move hops plan deadline state later := by
  rcases State.next_cases h with supervisor | attempt | ⟨waits, passes⟩
  · exact .of_wakeSupervisor supervisor
  · exact .of_wakeAttempt attempt
  · obtain ⟨time, first, rfl⟩ := Option.map_eq_some_iff.mp passes
    exact .pass waits (List.min?_mem first)

end FleetOps.Supervision
