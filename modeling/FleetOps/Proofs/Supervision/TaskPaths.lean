import FleetOps.Proofs.Supervision.Courses
import FleetOps.Proofs.Supervision.Termination

/-! Where the tasks of a run come to rest: the run has then returned the outcome that `run`
computes, and everything that it lists has happened, in that order. With some time and no step
that is over just at the deadline this is so for every schedule, since in each state only one
of the tasks can go on. One attempt is followed from its spawning to its report or to the
deadline, and then the retries by induction.
-/

namespace FleetOps.Supervision

variable {hops : Hops} {plan : Plan} {deadline : Nat} {choice : Choice} {schedule : Schedule}
  {allowed : Choice → Prop}

-----------------------------------------------------------------------------------------
-- Paths
-----------------------------------------------------------------------------------------

/-- Single steps lead from one state to another, with every choice that is allowed. -/
def Leads (allowed : Choice → Prop) (hops : Hops) (plan : Plan) (deadline : Nat)
    : State → State → Prop :=
  Relation.ReflTransGen fun state later =>
    ∀ choice, allowed choice → state.next? hops plan deadline choice = some later

/-- A step that every choice leads to is a path. -/
theorem Leads.step {state later : State}
    (next : ∀ choice, allowed choice → state.next? hops plan deadline choice = some later)
    : Leads allowed hops plan deadline state later :=
  Relation.ReflTransGen.single next

/-- One path goes on where another ends. -/
theorem Leads.trans {first middle last : State}
    (begins : Leads allowed hops plan deadline first middle)
    (goesOn : Leads allowed hops plan deadline middle last)
    : Leads allowed hops plan deadline first last :=
  Relation.ReflTransGen.trans begins goesOn

/-- A state to which a path leads from the beginning is the state after some steps, with every
schedule of choices that are allowed.
-/
theorem Leads.after {last : State} (h : Leads allowed hops plan deadline .initial last)
    : ∃ steps,
        ∀ schedule : Schedule,
          (∀ step, allowed (schedule step))
          → State.after hops plan deadline schedule steps = last := by
  induction h with
  | refl => exact ⟨0, fun _ _ => rfl⟩
  | tail _ next ih =>
      obtain ⟨steps, reached⟩ := ih
      refine ⟨steps + 1, fun schedule within => after_succ ?_⟩
      rw [reached schedule within]
      exact next _ (within steps)

/-- A hop that may be over at a time is over just at the deadline only if no choice but the
strict one is allowed.
-/
def Clear (allowed : Choice → Prop) (deadline : Nat) (ends : Option Nat) : Prop :=
  ends = some deadline → ∀ choice, allowed choice → choice = .strict

-----------------------------------------------------------------------------------------
-- States in which one of the tasks goes on
-----------------------------------------------------------------------------------------

/-- The run has neither returned nor been cancelled, and there is time left. -/
structure State.Underway (deadline : Nat) (state : State) : Prop where
  waiting : state.returned = none
  live : state.cancelled = false
  early : state.clock < deadline

/-- A hop of the attempt has begun and is not over. -/
def State.InHop (state : State) : Prop :=
  (∃ began, state.phase = .dialing began) ∨ ∃ began, state.phase = .executing began

/-- An attempt in one of its hops has nothing to send yet. -/
theorem State.InHop.unreceived {state : State} (h : state.InHop)
    : state.phase.received? = none := by
  rcases h with ⟨began, phase⟩ | ⟨began, phase⟩ <;> rw [phase] <;> rfl

/-- A step that is over later only is still pending. -/
theorem Step.progress_pending {α : Type} {step : Step α} {began now : Nat}
    (h : ∀ time, step.over? began = some time → now < time)
    : step.progress began now = .pending := by
  cases step with
  | hangs => rfl
  | ends delay result =>
      have later := h (began + delay) rfl
      simp only [progress, ite_eq_right_iff, reduceCtorEq, imp_false]
      omega
  | dies delay =>
      have later := h (began + delay) rfl
      simp only [progress, ite_eq_right_iff, reduceCtorEq, imp_false]
      omega

/-- A supervisor without a report waits as long as there is time left. -/
theorem State.Underway.supervisorWaits {state : State} (h : state.Underway deadline)
    (unreceived : state.phase.received? = none)
    : state.wakeSupervisor? deadline = none := by
  have early := h.early
  simp only [wakeSupervisor?, h.waiting, unreceived, ite_eq_right_iff, reduceCtorEq, imp_false]
  omega

/-- The task of an attempt that nobody has told to stop waits for a hop that is over later. -/
theorem State.InHop.attemptWaits {state : State} (hop : state.InHop)
    (live : state.cancelled = false)
    (later : ∀ time, state.hopOver? hops plan = some time → state.clock < time)
    (hopFirst : Bool)
    : state.wakeAttempt? hops plan hopFirst = none := by
  rcases hop with ⟨began, phase⟩ | ⟨began, phase⟩ <;>
    simp only [hopOver?, phase] at later <;>
    simp only [wakeAttempt?, phase, live, Step.progress_pending later, Bool.false_and,
      Bool.false_eq_true, if_false]

section

variable {state : State} {began delay : Nat} (hopFirst : Bool)

/-- A dial that dies takes the task of its attempt with it. -/
theorem State.wakeAttempt_dialDies (phase : state.phase = .dialing began)
    (live : state.cancelled = false) (goes : state.dialStep hops plan = .dies delay)
    (now : state.clock = began + delay)
    : state.wakeAttempt? hops plan hopFirst = some state.die := by
  simp [wakeAttempt?, phase, live, goes, Step.progress, now]

/-- A dial that fails fails its attempt. -/
theorem State.wakeAttempt_dialFails {failure : Failure} (phase : state.phase = .dialing began)
    (live : state.cancelled = false)
    (goes : state.dialStep hops plan = .ends delay (.error failure))
    (now : state.clock = began + delay)
    : state.wakeAttempt? hops plan hopFirst = some (state.report (.error failure)) := by
  simp [wakeAttempt?, phase, live, goes, Step.progress, now]

/-- A dial that succeeds hands out a tunnel. -/
theorem State.wakeAttempt_dialSucceeds {tunnel : Unit} (phase : state.phase = .dialing began)
    (live : state.cancelled = false) (goes : state.dialStep hops plan = .ends delay (.ok tunnel))
    (now : state.clock = began + delay)
    : state.wakeAttempt? hops plan hopFirst = some state.openTunnel := by
  simp [wakeAttempt?, phase, live, goes, Step.progress, now]

/-- Through a tunnel the command is executed. -/
theorem State.wakeAttempt_connected (phase : state.phase = .connected)
    (live : state.cancelled = false)
    : state.wakeAttempt? hops plan hopFirst = some (state.beginExecution plan) := by
  simp [wakeAttempt?, phase, live]

/-- An execution that dies takes the task of its attempt with it, and leaves the link open. -/
theorem State.wakeAttempt_executionDies (phase : state.phase = .executing began)
    (live : state.cancelled = false) (goes : state.executionStep hops plan = .dies delay)
    (now : state.clock = began + delay)
    : state.wakeAttempt? hops plan hopFirst = some state.dieOpen := by
  simp [wakeAttempt?, phase, live, goes, Step.progress, now]

/-- With the end of an execution the link is closed. -/
theorem State.wakeAttempt_executionEnds {result : Except Failure (List UInt8)}
    (phase : state.phase = .executing began) (live : state.cancelled = false)
    (goes : state.executionStep hops plan = .ends delay result)
    (now : state.clock = began + delay)
    : state.wakeAttempt? hops plan hopFirst = some (state.closeAndReport result) := by
  simp [wakeAttempt?, phase, live, goes, Step.progress, now]

end

/-- While there is time left the task of the attempt takes its turn. -/
theorem State.Underway.leads {state later : State} (h : state.Underway deadline)
    (unreceived : state.phase.received? = none)
    (wakes : ∀ hopFirst, state.wakeAttempt? hops plan hopFirst = some later)
    : Leads allowed hops plan deadline state later :=
  .step fun _ _ => next_attempt (h.supervisorWaits unreceived) (wakes _)

/-- As long as there is time left a run is under way. -/
theorem State.Underway.setClock {state : State} {time : Nat} (h : state.Underway deadline)
    (early : time < deadline)
    : (state.setClock time).Underway deadline :=
  ⟨h.waiting, h.live, early⟩

/-- While everybody waits, the clock moves to the deadline or to the end of the hop. -/
theorem State.Underway.next_pass {state : State} (h : state.Underway deadline)
    (hop : state.InHop)
    (later : ∀ time, state.hopOver? hops plan = some time → state.clock < time)
    : state.next? hops plan deadline choice
      = (deadline :: (state.hopOver? hops plan).toList).min?.map state.setClock := by
  rw [Waits.next ⟨h.supervisorWaits hop.unreceived, hop.attemptWaits h.live later⟩]
  simp only [passTime?, timers, h.waiting, Option.isNone_none, if_true, List.singleton_append]

/-- A hop that is over before the deadline is awaited. -/
theorem Leads.toHopEnd {state : State} {time : Nat} (h : state.Underway deadline)
    (hop : state.InHop) (finished : state.hopOver? hops plan = some time)
    (ahead : state.clock ≤ time) (early : time < deadline)
    : Leads allowed hops plan deadline state (state.setClock time) := by
  rcases Nat.eq_or_lt_of_le ahead with now | later
  · rw [← now]
    exact .refl
  · refine .step fun choice _ => ?_
    have same : ∀ other, state.hopOver? hops plan = some other → state.clock < other :=
      fun _ other => Option.some.inj (finished.symm.trans other) ▸ later
    rw [h.next_pass hop same, finished]
    simp [List.min?_cons, Nat.min_eq_right (Nat.le_of_lt early)]

/-- A hop that is over at a time that is not before the deadline is not over before it. -/
theorem late_of_not_early {ends : Option Nat} {time : Nat} (finished : ends = some time)
    (late : ¬ time < deadline)
    : ∀ other, ends = some other → deadline ≤ other := by
  rintro other rfl
  rw [Option.some.inj finished]
  exact Nat.le_of_not_lt late

/-- A hop that is not over before the deadline is cut off by it. -/
theorem Leads.toDeadline {state : State} (h : state.Underway deadline) (hop : state.InHop)
    (late : ∀ time, state.hopOver? hops plan = some time → deadline ≤ time)
    (clear : Clear allowed deadline (state.hopOver? hops plan))
    : Leads allowed hops plan deadline state ((state.setClock deadline).finish .timedOut) := by
  have early := h.early
  have passes : ∀ choice,
      state.next? hops plan deadline choice = some (state.setClock deadline) := by
    intro choice
    rw [h.next_pass hop fun time finished => Nat.lt_of_lt_of_le early (late time finished)]
    cases finished : state.hopOver? hops plan with
    | none => simp
    | some time => simp [List.min?_cons, Nat.min_eq_left (late time finished)]
  have expires : (state.setClock deadline).wakeSupervisor? deadline
      = some ((state.setClock deadline).finish .timedOut) := by
    simp only [State.wakeSupervisor?, show (state.setClock deadline).returned = none from h.waiting,
      show (state.setClock deadline).phase.received? = none from hop.unreceived]
    simp [State.setClock]
  refine (Leads.step fun choice _ => passes choice).trans (.step fun choice may => ?_)
  by_cases tied : state.hopOver? hops plan = some deadline
  · rw [clear tied choice may]
    simp only [State.next?, expires, Choice.strict, Bool.false_eq_true, if_false, Option.some_or]
  · have still : (state.setClock deadline).InHop := hop
    have waits : (state.setClock deadline).wakeAttempt? hops plan choice.hopFirst = none := by
      refine still.attemptWaits h.live (fun time finished => ?_) _
      exact Nat.lt_of_le_of_ne (late time finished) fun same => tied (finished.trans (same ▸ rfl))
    exact State.next_supervisor waits expires

/-- What an attempt in one of its hops does when it is told to stop. -/
def State.stop (state : State) : State :=
  match state.phase with
  | .executing _ => state.closeAndReport (.error .timeout)
  | _ => state.report (.error .timeout)

/-- An attempt that is told to stop in one of its hops does so, whatever it looks at first,
unless the hop is over just then.
-/
theorem State.InHop.stops {state : State} (hop : state.InHop) (cancelled : state.cancelled = true)
    (late : ∀ time, state.hopOver? hops plan = some time → state.clock ≤ time)
    (clear : state.hopOver? hops plan = some state.clock → choice = .strict)
    : state.wakeAttempt? hops plan choice.hopFirst = some state.stop := by
  by_cases tied : state.hopOver? hops plan = some state.clock
  · rw [clear tied]
    rcases hop with ⟨began, phase⟩ | ⟨began, phase⟩ <;>
      simp [wakeAttempt?, stop, phase, cancelled, Choice.strict]
  · have later : ∀ time, state.hopOver? hops plan = some time → state.clock < time :=
      fun time finished =>
        Nat.lt_of_le_of_ne (late time finished) fun same => tied (same ▸ finished)
    rcases hop with ⟨began, phase⟩ | ⟨began, phase⟩ <;> simp only [hopOver?, phase] at later <;>
      simp [wakeAttempt?, stop, phase, cancelled, Step.progress_pending later]

/-- A run that has returned is over with its last attempt. -/
theorem State.rests {state : State} {outcome result}
    (returned : state.returned = some outcome) (finished : state.phase.received? = some result)
    : state.Rests hops plan deadline := by
  intro choice
  cases phase : state.phase with
  | reported | lost =>
      simp [next?, wakeSupervisor?, wakeAttempt?, passTime?, timers, hopOver?, returned, phase]
  | spawned | dialing | connected | executing => simp [phase, Phase.received?] at finished

-----------------------------------------------------------------------------------------
-- One attempt, from its spawning to its report or to the deadline
-----------------------------------------------------------------------------------------

/-- The supervisor of a state can receive a result at a time. -/
structure State.Receives (state : State) (time : Nat) (result : Except Failure (List UInt8))
    : Prop where
  waiting : state.returned = none
  live : state.cancelled = false
  clock : state.clock = time
  received : state.phase.received? = some result

/-- The run of a state is over, with an outcome and everything that has happened. -/
structure State.AtRest (hops : Hops) (plan : Plan) (deadline : Nat) (state : State)
    (outcome : Outcome) (history : List Occurrence)
    : Prop where
  finished : state.Rests hops plan deadline
  returned : state.returned = some outcome
  history : state.history = history
  /-- An attempt that is cut off has not died. -/
  cutOff : outcome = .timedOut → ∃ result, state.phase = .reported result

/-- From a state the tasks carry out an attempt: after the history so far comes what the
attempt lists, and its result is received before the deadline, unless the deadline cuts it
off and the run comes to rest without it.
-/
def CarriesOut (allowed : Choice → Prop) (hops : Hops) (plan : Plan) (deadline : Nat)
    (state : State) (before : List Occurrence) (executions : Nat) (attempt : Attempt)
    : Prop :=
  match attempt.result with
  | some (time, result) =>
      time < deadline
      ∧ ∃ later,
          Leads allowed hops plan deadline state later
          ∧ later.Receives time result
          ∧ later.attempts = state.attempts
          ∧ later.executions = executions
          ∧ later.history = before ++ attempt.occurrences
  | none =>
      ∃ last,
        Leads allowed hops plan deadline state last
        ∧ last.AtRest hops plan deadline .timedOut
            (before
              ++ (attempt.occurrences ++ ⟨deadline, .returned .timedOut⟩ :: attempt.cleanup))

/-- What happens once the hop of an attempt has been cut off at a time. -/
def State.cleanup (state : State) (time : Nat) : List Occurrence :=
  match state.phase with
  | .executing _ => [⟨time, .closed state.attempts⟩]
  | _ => []

/-- A hop that is not over before the deadline is cut off, and the run comes to rest. -/
theorem State.Underway.cutOff {state : State} (h : state.Underway deadline) (hop : state.InHop)
    (late : ∀ time, state.hopOver? hops plan = some time → deadline ≤ time)
    (clear : Clear allowed deadline (state.hopOver? hops plan))
    : ∃ last,
        Leads allowed hops plan deadline state last
        ∧ last.AtRest hops plan deadline .timedOut
            (state.history ++ ⟨deadline, .returned .timedOut⟩ :: state.cleanup deadline) := by
  have still : ((state.setClock deadline).finish .timedOut).InHop := hop
  refine ⟨((state.setClock deadline).finish .timedOut).stop,
    (Leads.toDeadline h hop late clear).trans (.step fun choice may => ?_), ?_⟩
  · refine State.next_attempt rfl (still.stops rfl late fun tied => clear tied choice may)
  · rcases hop with ⟨began, phase⟩ | ⟨began, phase⟩
    · have stopped : ((state.setClock deadline).finish .timedOut).stop
          = ((state.setClock deadline).finish .timedOut).report (.error .timeout) := by
        simp only [State.stop, State.finish, State.record, State.setClock, phase]
      rw [stopped]
      refine ⟨State.rests rfl rfl, rfl, ?_, fun _ => ⟨_, rfl⟩⟩
      simp only [State.cleanup, phase]
      rfl
    · have stopped : ((state.setClock deadline).finish .timedOut).stop
          = ((state.setClock deadline).finish .timedOut).closeAndReport (.error .timeout) := by
        simp only [State.stop, State.finish, State.record, State.setClock, phase]
      rw [stopped]
      refine ⟨State.rests rfl rfl, rfl, ?_, fun _ => ⟨_, rfl⟩⟩
      simp [State.cleanup, State.closeAndReport, State.report, State.finish, State.record,
        State.setClock, phase]

/-- An attempt whose execution has just begun is carried out. Witness: the execution ends,
dies or is cut off.
-/
theorem CarriesOut.executePart {state : State} {before : List Occurrence}
    (h : state.Underway deadline) (phase : state.phase = .executing state.clock)
    (clear : Clear allowed deadline ((state.executionStep hops plan).over? state.clock))
    (recorded
      : state.history
        = before
          ++ [⟨state.clock, .opened state.attempts⟩,
            ⟨state.clock, .executed state.attempts plan.nodeCredentials plan.command⟩])
    : CarriesOut allowed hops plan deadline state before state.executions
        (executePart plan deadline state.attempts state.clock
          (state.executionStep hops plan)) := by
  have hop : state.InHop := .inr ⟨state.clock, phase⟩
  have overAt : state.hopOver? hops plan = (state.executionStep hops plan).over? state.clock := by
    simp only [State.hopOver?, phase]
  have closes : state.cleanup deadline = [⟨deadline, .closed state.attempts⟩] := by
    simp only [State.cleanup, phase]
  -- What happens after the deadline is the same however late the execution would have been.
  have cutOff (late : ∀ time, state.hopOver? hops plan = some time → deadline ≤ time) :=
    h.cutOff hop late (overAt ▸ clear)
  rw [closes] at cutOff
  cases goes : state.executionStep hops plan with
  | hangs =>
      simp only [goes, Step.over?] at overAt
      simpa [CarriesOut, Supervision.executePart, recorded]
        using cutOff (by simp [overAt])
  | dies delay =>
      simp only [goes, Step.over?] at overAt
      by_cases early : state.clock + delay < deadline
      · have path : Leads allowed hops plan deadline state _ :=
          Leads.toHopEnd h hop overAt (Nat.le_add_right _ _) early
        simp only [CarriesOut, Supervision.executePart, early, if_true, true_and]
        refine ⟨(state.setClock (state.clock + delay)).dieOpen,
          path.trans ((h.setClock early).leads hop.unreceived fun hopFirst => ?_),
          ⟨h.waiting, h.live, rfl, rfl⟩, rfl, rfl, recorded⟩
        exact State.wakeAttempt_executionDies hopFirst phase h.live goes rfl
      · simpa [CarriesOut, Supervision.executePart, recorded, early]
          using cutOff (late_of_not_early overAt early)
  | ends delay result =>
      simp only [goes, Step.over?] at overAt
      by_cases early : state.clock + delay < deadline
      · have path : Leads allowed hops plan deadline state _ :=
          Leads.toHopEnd h hop overAt (Nat.le_add_right _ _) early
        simp only [CarriesOut, Supervision.executePart, early, if_true, true_and]
        refine ⟨(state.setClock (state.clock + delay)).closeAndReport result,
          path.trans ((h.setClock early).leads hop.unreceived fun hopFirst => ?_),
          ⟨h.waiting, h.live, rfl, rfl⟩, rfl, rfl, ?_⟩
        · exact State.wakeAttempt_executionEnds hopFirst phase h.live goes rfl
        · simp [State.closeAndReport, State.report, State.record, State.setClock, recorded]
      · simpa [CarriesOut, Supervision.executePart, recorded, early]
          using cutOff (late_of_not_early overAt early)

/-- What is carried out after a first occurrence is carried out with it in front. -/
theorem CarriesOut.prepend {state later : State} {before : List Occurrence} {executions : Nat}
    {first : Occurrence} {part : Attempt} (path : Leads allowed hops plan deadline state later)
    (same : later.attempts = state.attempts)
    (rest : CarriesOut allowed hops plan deadline later (before ++ [first]) executions part)
    : CarriesOut allowed hops plan deadline state before executions
        { part with occurrences := first :: part.occurrences } := by
  obtain ⟨occurrences, result, cleanup⟩ := part
  cases result with
  | none =>
      obtain ⟨last, goesOn, finished, returned, history, cutOff⟩ := rest
      refine ⟨last, path.trans goesOn, finished, returned, ?_, cutOff⟩
      simpa only [List.append_assoc, List.cons_append, List.nil_append] using history
  | some result =>
      obtain ⟨early, last, goesOn, receives, attempts, executed, history⟩ := rest
      refine ⟨early, last, path.trans goesOn, receives, attempts.trans same, executed, ?_⟩
      simpa only [List.append_assoc, List.singleton_append] using history

/-- Once it has its tunnel an attempt executes its command. -/
theorem executePart_executes (number opened : Nat) (step : Step (List UInt8))
    : (executePart plan deadline number opened step).executes = true := by
  cases step with
  | hangs => rfl
  | dies delay =>
      simp only [executePart]
      split <;> rfl
  | ends delay result =>
      simp only [executePart]
      split <;> rfl

/-- What comes before the execution does not change that there is one. -/
theorem Attempt.executes_prepend {part : Attempt} {first : Occurrence}
    (executes : part.executes = true)
    : Attempt.executes { part with occurrences := first :: part.occurrences } = true := by
  simp only [Attempt.executes, List.any_cons] at executes ⊢
  rw [executes, Bool.or_true]

/-- An attempt that has just been spawned dials. -/
theorem State.Underway.dials {state : State} (h : state.Underway deadline)
    (phase : state.phase = .spawned)
    : Leads allowed hops plan deadline state (state.beginDial plan) := by
  refine h.leads (by rw [phase]; rfl) fun hopFirst => ?_
  simp only [State.wakeAttempt?, phase, h.live, Bool.false_and, Bool.false_eq_true, if_false]

/-- A dial that is over in time is awaited. -/
theorem State.Underway.dialEnds {state : State} {delay : Nat} (h : state.Underway deadline)
    (phase : state.phase = .spawned)
    (finished : (state.dialStep hops plan).over? state.clock = some (state.clock + delay))
    (early : state.clock + delay < deadline)
    : Leads allowed hops plan deadline state
        ((state.beginDial plan).setClock (state.clock + delay)) := by
  have underway : (state.beginDial plan).Underway deadline := ⟨h.waiting, h.live, h.early⟩
  have hop : (state.beginDial plan).InHop := .inl ⟨state.clock, rfl⟩
  exact (h.dials phase).trans
    (Leads.toHopEnd underway hop finished (Nat.le_add_right _ _) early)

/-- A dial that hands out a tunnel in time is followed by the execution. -/
theorem State.Underway.executes {state : State} {delay : Nat} (h : state.Underway deadline)
    (phase : state.phase = .spawned) (goes : state.dialStep hops plan = .ends delay (.ok ()))
    (early : state.clock + delay < deadline)
    : Leads allowed hops plan deadline state
        (((state.beginDial plan).setClock
          (state.clock + delay)).openTunnel.beginExecution plan) := by
  have dialed : ((state.beginDial plan).setClock (state.clock + delay)).Underway deadline :=
    ⟨h.waiting, h.live, early⟩
  have connected : ((state.beginDial plan).setClock
      (state.clock + delay)).openTunnel.Underway deadline :=
    ⟨h.waiting, h.live, early⟩
  refine (h.dialEnds phase (by rw [goes, Step.over?]) early).trans ?_
  refine (dialed.leads rfl fun hopFirst => ?opens).trans
    (connected.leads rfl fun hopFirst => ?begins)
  case opens => exact State.wakeAttempt_dialSucceeds hopFirst rfl h.live goes rfl
  case begins => exact State.wakeAttempt_connected hopFirst rfl h.live

/-- An attempt that has just been spawned is carried out. Witness: its dial ends, dies or is
cut off, and if it hands out a tunnel the execution goes on from there.
-/
theorem CarriesOut.attempt (hops : Hops) (plan : Plan) {state : State}
    (h : state.Underway deadline) (phase : state.phase = .spawned)
    (clearDial : Clear allowed deadline ((state.dialStep hops plan).over? state.clock))
    (clearExecution
      : ∀ delay,
          state.dialStep hops plan = .ends delay (.ok ())
          → Clear allowed deadline
              ((hops.execute state.executions plan.nodeCredentials plan.command).over?
                (state.clock + delay)))
    : CarriesOut allowed hops plan deadline state state.history
        (if (attemptAt hops plan deadline state.attempts state.executions state.clock).executes
          then state.executions + 1 else state.executions)
        (attemptAt hops plan deadline state.attempts state.executions state.clock) := by
  rw [attemptAt, ← State.dialStep]
  have underway : (state.beginDial plan).Underway deadline := ⟨h.waiting, h.live, h.early⟩
  have hop : (state.beginDial plan).InHop := .inl ⟨state.clock, rfl⟩
  have overAt : (state.beginDial plan).hopOver? hops plan
      = (state.dialStep hops plan).over? state.clock := rfl
  have cutOff
      (late : ∀ time,
        (state.beginDial plan).hopOver? hops plan = some time → deadline ≤ time)
      : ∃ last,
          Leads allowed hops plan deadline state last
          ∧ last.AtRest hops plan deadline .timedOut
              ((state.beginDial plan).history ++ [⟨deadline, .returned .timedOut⟩]) := by
    obtain ⟨last, path, rests⟩ := underway.cutOff hop late (overAt ▸ clearDial)
    exact ⟨last, (h.dials phase).trans path, rests⟩
  -- What is over before the deadline is awaited, and the task goes on from there.
  have awaited {delay : Nat} {later : State}
      (finished : (state.dialStep hops plan).over? state.clock = some (state.clock + delay))
      (early : state.clock + delay < deadline)
      (wakes : ∀ hopFirst,
        ((state.beginDial plan).setClock (state.clock + delay)).wakeAttempt? hops plan hopFirst
          = some later)
      : Leads allowed hops plan deadline state later :=
    (h.dialEnds phase finished early).trans ((underway.setClock early).leads rfl wakes)
  cases goes : state.dialStep hops plan with
  | hangs =>
      rw [goes, Step.over?] at overAt
      simpa [CarriesOut, Supervision.attempt, State.beginDial, State.record]
        using cutOff (by simp [overAt])
  | dies delay =>
      rw [goes, Step.over?] at overAt
      by_cases early : state.clock + delay < deadline
      · simp only [CarriesOut, Supervision.attempt, early, if_true, true_and]
        exact ⟨_,
          awaited (by rw [goes, Step.over?]) early fun hopFirst =>
            State.wakeAttempt_dialDies hopFirst rfl h.live goes rfl,
          ⟨h.waiting, h.live, rfl, rfl⟩, rfl, rfl, rfl⟩
      · simpa [CarriesOut, Supervision.attempt, State.beginDial, State.record, early]
          using cutOff (late_of_not_early overAt early)
  | ends delay result =>
      rw [goes, Step.over?] at overAt
      by_cases early : state.clock + delay < deadline
      · cases result with
        | error failure =>
            simp only [CarriesOut, Supervision.attempt, early, if_true, true_and]
            exact ⟨_,
              awaited (by rw [goes, Step.over?]) early fun hopFirst =>
                State.wakeAttempt_dialFails hopFirst rfl h.live goes rfl,
              ⟨h.waiting, h.live, rfl, rfl⟩, rfl, rfl, rfl⟩
        | ok _ =>
            have goesOn : CarriesOut allowed hops plan deadline
                (((state.beginDial plan).setClock
                  (state.clock + delay)).openTunnel.beginExecution plan)
                (state.beginDial plan).history (state.executions + 1)
                (Supervision.executePart plan deadline state.attempts (state.clock + delay)
                  (hops.execute state.executions plan.nodeCredentials plan.command)) :=
              .executePart ⟨h.waiting, h.live, early⟩ rfl (clearExecution delay goes)
                (by simp [State.beginExecution, State.openTunnel, State.record, State.setClock])
            simp only [Supervision.attempt, early, if_true,
              Attempt.executes_prepend (executePart_executes _ _ _)]
            exact CarriesOut.prepend (h.executes phase goes early) rfl goesOn
      · cases result <;>
          simpa [CarriesOut, Supervision.attempt, State.beginDial, State.record, early]
            using cutOff (late_of_not_early overAt early)

-----------------------------------------------------------------------------------------
-- The whole run
-----------------------------------------------------------------------------------------

/-- The supervisor settles on a result if it is no handshake end or no attempt is left. -/
theorem State.Receives.next_settles {state : State} {time : Nat}
    {result : Except Failure (List UInt8)} (h : state.Receives time result)
    (last : state.attempts = maxAttempts ∨ isHandshakeEnd result = false)
    : state.wakeSupervisor? deadline
      = some (state.finish (outcomeOf state.attempts result)) := by
  have settles : (isHandshakeEnd result && state.attempts < maxAttempts) = false := by
    rcases last with most | other
    · simp [most]
    · simp [other]
  simp only [wakeSupervisor?, h.waiting, h.received, settles, Bool.false_eq_true, if_false]

/-- After a handshake end the supervisor spawns another attempt as long as one is left. -/
theorem State.Receives.next_retries {state : State} {time : Nat}
    {result : Except Failure (List UInt8)} (h : state.Receives time result)
    (left : state.attempts < maxAttempts) (again : isHandshakeEnd result = true)
    : state.wakeSupervisor? deadline = some state.spawnNext := by
  simp only [wakeSupervisor?, h.waiting, h.received, again, left, decide_true,
    Bool.and_true, if_true]

/-- An attempt that has sent its result does nothing more, so the supervisor takes its turn. -/
theorem State.Receives.leads {state later : State} {time : Nat}
    {result : Except Failure (List UInt8)} (h : state.Receives time result)
    (wakes : state.wakeSupervisor? deadline = some later)
    : Leads allowed hops plan deadline state later := by
  refine .step fun choice _ => next_supervisor ?_ wakes
  have received := h.received
  cases phase : state.phase with
  | reported | lost => simp only [wakeAttempt?, phase]
  | spawned | dialing | connected | executing => simp [phase, Phase.received?] at received

/-- Once the supervisor settles on a result the run is at rest. -/
theorem State.Receives.rests {first state : State} {time : Nat}
    {result : Except Failure (List UInt8)} {before since : List Occurrence}
    (h : state.Receives time result) (path : Leads allowed hops plan deadline first state)
    (attempts : state.attempts = first.attempts) (recorded : state.history = before ++ since)
    (last : state.attempts = maxAttempts ∨ isHandshakeEnd result = false)
    : Leads allowed hops plan deadline first (state.finish (outcomeOf state.attempts result))
      ∧ (state.finish (outcomeOf state.attempts result)).AtRest hops plan deadline
          (outcomeOf first.attempts result)
          (before ++ (since ++ [⟨time, .returned (outcomeOf first.attempts result)⟩])) := by
  refine ⟨path.trans (h.leads (h.next_settles last)),
    State.rests rfl h.received, by rw [← attempts]; rfl, ?_, fun timedOut => ?_⟩
  · simp only [State.finish, State.record, recorded, h.clock, attempts, List.append_assoc]
  · have received := h.received
    cases phase : state.phase with
    | reported given => exact ⟨given, phase⟩
    | lost =>
        simp only [phase, Phase.received?, Option.some.injEq] at received
        subst received
        contradiction
    | spawned | dialing | connected | executing => simp [phase, Phase.received?] at received

/-- With choices that are allowed no step is tied with the deadline: either only the strict
choice is, or no step is over just then.
-/
def Unambiguous (allowed : Choice → Prop) (hops : Hops) (plan : Plan) (deadline : Nat) : Prop :=
  (∀ choice, allowed choice → choice = .strict) ∨ Script.Untied hops plan deadline

/-- The steps of an attempt that a run comes to are clear of the deadline. -/
theorem Begins.clear {left attempts start : Nat}
    (h : Begins hops plan deadline left attempts start)
    (unambiguous : Unambiguous allowed hops plan deadline)
    : Clear allowed deadline ((Script.dial hops plan (attempts + 1)).over? start)
      ∧ ∀ delay,
          Script.dial hops plan (attempts + 1) = .ends delay (.ok ())
          → Clear allowed deadline
              ((hops.execute (Script.tunnels hops plan attempts) plan.nodeCredentials
                plan.command).over? (start + delay)) := by
  rcases unambiguous with strict | untied
  · exact ⟨fun _ => strict, fun _ _ _ => strict⟩
  · have count := h.count
    obtain ⟨dial, course⟩ := untied attempts (by omega) h.retried start h.ended
    refine ⟨fun tied => absurd tied dial, fun delay opens tied => absurd ?_ course⟩
    simp only [Script.course, opens, Nat.add_sub_cancel]
    cases goes : hops.execute (Script.tunnels hops plan attempts) plan.nodeCredentials
        plan.command with
    | hangs => simp [goes, Step.over?] at tied
    | dies more | ends more result =>
        simpa [goes, Step.over?, Step.delayed, Nat.add_assoc] using tied

/-- An attempt that a run comes to is carried out. -/
theorem Begins.carriesOut {left attempts start : Nat}
    (begins : Begins hops plan deadline left attempts start)
    (unambiguous : Unambiguous allowed hops plan deadline)
    {state : State} (h : state.Underway deadline) (phase : state.phase = .spawned)
    (number : state.attempts = attempts + 1)
    (executions : state.executions = Script.tunnels hops plan attempts)
    (clock : state.clock = start)
    : CarriesOut allowed hops plan deadline state state.history
        (if (attemptAfter hops plan deadline attempts start).executes
          then Script.tunnels hops plan attempts + 1 else Script.tunnels hops plan attempts)
        (attemptAfter hops plan deadline attempts start) := by
  obtain ⟨clearDial, clearExecution⟩ := begins.clear unambiguous
  have dial : state.dialStep hops plan = Script.dial hops plan (attempts + 1) := by
    rw [State.dialStep, number, Script.dial]
  have carried := @CarriesOut.attempt deadline allowed hops plan state h phase
    (by rw [dial, clock]; exact clearDial)
    (by rw [dial, clock, executions]; exact clearExecution)
  rw [number, executions, clock] at carried
  exact carried

/-- From the spawning of an attempt on the tasks come to rest as the run from it on says, by
induction on how many attempts may follow.
-/
theorem Leads.runFrom (unambiguous : Unambiguous allowed hops plan deadline)
    {left attempts start : Nat} (begins : Begins hops plan deadline left attempts start)
    : ∀ state : State,
        state.Underway deadline
        → state.phase = .spawned
        → state.attempts = attempts + 1
        → state.executions = Script.tunnels hops plan attempts
        → state.clock = start
        → ∃ last,
            Leads allowed hops plan deadline state last
            ∧ last.AtRest hops plan deadline
                (runFrom hops plan deadline left (attempts + 1)
                  (Script.tunnels hops plan attempts) start).outcome
                (state.history
                  ++ (runFrom hops plan deadline left (attempts + 1)
                      (Script.tunnels hops plan attempts) start).occurrences) := by
  refine runFrom_begins_induct hops plan deadline
    (motive := fun left attempts start run =>
      ∀ state : State,
        state.Underway deadline → state.phase = .spawned
        → state.attempts = attempts + 1
        → state.executions = Script.tunnels hops plan attempts
        → state.clock = start
        → ∃ last,
            Leads allowed hops plan deadline state last
            ∧ last.AtRest hops plan deadline run.outcome (state.history ++ run.occurrences))
    ?cutOff ?settles ?retries begins
  case cutOff =>
    intro left attempts start begins cut state h phase number executions clock
    have carried := begins.carriesOut unambiguous h phase number executions clock
    simpa only [CarriesOut, cut] using carried
  case settles =>
    intro left attempts start time result begins ended last state h phase number executions clock
    have carried := begins.carriesOut unambiguous h phase number executions clock
    simp only [CarriesOut, ended] at carried
    obtain ⟨_, later, path, receives, same, _, history⟩ := carried
    have count := begins.count
    obtain ⟨goesOn, rests⟩ := receives.rests path same history (last.imp_left (by omega))
    rw [number] at rests
    exact ⟨_, goesOn, rests⟩
  case retries =>
    intro left attempts start time result run begins ended again ih state h phase number
      executions clock
    have carried := begins.carriesOut unambiguous h phase number executions clock
    simp only [CarriesOut, ended] at carried
    obtain ⟨early, later, path, receives, same, executed, history⟩ := carried
    have count := begins.count
    have retries : Leads allowed hops plan deadline later later.spawnNext :=
      receives.leads (receives.next_retries (by omega) again)
    obtain ⟨last, goesOn, rests⟩ :=
      ih later.spawnNext ⟨receives.waiting, receives.live, receives.clock ▸ early⟩ rfl
        (by rw [State.spawnNext, same, number]) (executed.trans (begins.retries ended again).2)
        receives.clock
    refine ⟨last, path.trans (retries.trans goesOn), ?_⟩
    simpa only [State.spawnNext, history, List.append_assoc] using rests

/-- The first attempt of a run begins if there is any time at all. -/
theorem Begins.first (early : 0 < deadline) : Begins hops plan deadline (maxAttempts - 1) 0 0 where
  ended := rfl
  early := early
  retried := fun earlier first upTo => by omega
  count := rfl

/-- If there is any time and no choice is open where a step is over just at the deadline, the
tasks of a run come to rest with its outcome and its occurrences.
-/
theorem after_atRest (early : 0 < deadline)
    (unambiguous : Unambiguous allowed hops plan deadline)
    : ∃ steps,
        ∀ schedule : Schedule,
          (∀ step, allowed (schedule step))
          → (State.after hops plan deadline schedule steps).AtRest hops plan deadline
              (run hops plan deadline).outcome (run hops plan deadline).occurrences := by
  obtain ⟨last, path, rests⟩ :=
    Leads.runFrom unambiguous (.first early) .initial ⟨rfl, rfl, early⟩ rfl rfl rfl rfl
  obtain ⟨steps, reached⟩ := path.after
  refine ⟨steps, fun schedule within => ?_⟩
  rw [reached schedule within]
  exact rests

-----------------------------------------------------------------------------------------
-- A run without any time
-----------------------------------------------------------------------------------------

/-- An attempt without any time does not come beyond its dial. -/
theorem attemptAt_withoutTime (number executions : Nat)
    : attemptAt hops plan 0 number executions 0
      = {
          occurrences := [⟨0, .dialed number plan.relay plan.relayCredentials plan.port⟩]
          result := none
          cleanup := []
        } := by
  simp only [attemptAt, attempt]
  cases hops.dial (number - 1) plan.relay plan.relayCredentials plan.port with
  | hangs => rfl
  | dies delay => rfl
  | ends delay result => cases result <;> rfl

/-- What `run` computes is carried out by the tasks with one schedule at least, whatever the
deadline and however the steps are tied with it.
-/
theorem run_isCarriedOut (hops : Hops) (plan : Plan) (deadline : Nat)
    : ∃ schedule steps,
        (State.after hops plan deadline schedule steps).AtRest hops plan deadline
          (run hops plan deadline).outcome (run hops plan deadline).occurrences := by
  cases deadline with
  | zero =>
      -- The first attempt begins its dial before the deadline is looked at.
      refine ⟨fun step => if step = 0 then { attemptFirst := true, hopFirst := false } else .strict,
        3, ?_⟩
      rw [run, runFrom_cutOff (by rw [attemptAt_withoutTime]), attemptAt_withoutTime]
      exact ⟨State.rests rfl rfl, rfl, rfl, fun _ => ⟨_, rfl⟩⟩
  | succ rest =>
      have strict : Unambiguous (· = .strict) hops plan (rest + 1) := .inl fun _ same => same
      obtain ⟨steps, rests⟩ := after_atRest (Nat.succ_pos rest) strict
      exact ⟨fun _ => .strict, steps, rests _ fun _ => rfl⟩

end FleetOps.Supervision
