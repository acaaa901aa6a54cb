import FleetOps.Supervision.Run

/-! A run as its tasks carry it out, one step after another on a virtual clock. The supervisor
waits for the report of the attempt that it spawned last and for the deadline, the task of
that attempt waits for its hops and for the cancellation token, and the clock moves on only
when both of them have to wait. Which of the two is woken first, and what a task that waits
for two things looks at first, is not settled by the program: each step is given a choice.
-/

namespace FleetOps.Supervision

/-- What there is of a step at the time at which it is looked at. -/
inductive Progress (α : Type) where
  | pending
  | died
  | ended (result : Except Failure α)

namespace Step

variable {α : Type}

/-- What there is at `now` of a step that began earlier. -/
def progress (began now : Nat) : Step α → Progress α
  | ends delay result => if began + delay ≤ now then .ended result else .pending
  | dies delay => if began + delay ≤ now then .died else .pending
  | hangs => .pending

/-- When a step is over, if it ever is. -/
def over? (began : Nat) : Step α → Option Nat
  | ends delay _ => some (began + delay)
  | dies delay => some (began + delay)
  | hangs => none

end Step

/-- What a step of a run leaves open: whether the task of the attempt is woken before the
supervisor when both of them can go on, and whether that task looks at its hop before it
looks at the token.
-/
structure Choice where
  attemptFirst : Bool
  hopFirst : Bool
  deriving DecidableEq, Repr

/-- The choice with which the deadline is kept as early as it can be: the supervisor is woken
first, and the token is looked at first.
-/
def Choice.strict : Choice := { attemptFirst := false, hopFirst := false }

/-- What is chosen at each step of a run. -/
abbrev Schedule : Type := Nat → Choice

/-- Where the task of an attempt stands. -/
inductive Phase where
  | spawned
  | dialing (began : Nat)
  /-- The dial has handed out a tunnel, and the execution through it has not begun. -/
  | connected
  | executing (began : Nat)
  /-- The task has sent its result to the supervisor, and is over. -/
  | reported (result : Except Failure (List UInt8))
  /-- The task has died, and what it should have sent will never come. -/
  | lost

/-- What the supervisor receives from a task that is over. -/
def Phase.received? : Phase → Option (Except Failure (List UInt8))
  | reported result => some result
  | lost => some (.error lostAttempt)
  | _ => none

/-- A state of a run. Only the task of the last attempt is kept: the supervisor spawns an
attempt when it has received what the one before sent, and sending is the last thing a task
does.
-/
structure State where
  clock : Nat
  /-- Whether the token that all attempts share has been cancelled. -/
  cancelled : Bool
  /-- How many attempts have been spawned. -/
  attempts : Nat
  phase : Phase
  /-- How many executions have begun. -/
  executions : Nat
  /-- The attempts whose task died during the execution, with the link still open. -/
  panicked : List Nat
  /-- What the run has returned, if it has. -/
  returned : Option Outcome
  history : List Occurrence

namespace State

/-- The state in which the first attempt has just been spawned. -/
def initial : State :=
  {
    clock := 0
    cancelled := false
    attempts := 1
    phase := .spawned
    executions := 0
    panicked := []
    returned := none
    history := []
  }

/-- Something happens now. -/
def record (state : State) (event : Event) : State :=
  { state with history := state.history ++ [⟨state.clock, event⟩] }

section

variable (state : State) (event : Event)

@[simp] theorem record_clock : (state.record event).clock = state.clock := rfl

@[simp] theorem record_attempts : (state.record event).attempts = state.attempts := rfl

@[simp] theorem record_phase : (state.record event).phase = state.phase := rfl

@[simp] theorem record_panicked : (state.record event).panicked = state.panicked := rfl

@[simp] theorem record_returned : (state.record event).returned = state.returned := rfl

end

/-- The run returns, and whatever is still under way is told to stop. -/
def finish (state : State) (outcome : Outcome) : State :=
  { state.record (.returned outcome) with
    cancelled := true
    returned := some outcome }

/-- The task of the attempt sends its result. -/
def report (state : State) (result : Except Failure (List UInt8)) : State :=
  { state with phase := .reported result }

/-- The task of the attempt dies before it has a tunnel. -/
def die (state : State) : State :=
  { state with phase := .lost }

/-- The task of the attempt dies with its link open. -/
def dieOpen (state : State) : State :=
  { state with
    phase := .lost
    panicked := state.panicked ++ [state.attempts] }

/-- The task of the attempt closes its link and sends its result. -/
def closeAndReport (state : State) (result : Except Failure (List UInt8)) : State :=
  (state.record (.closed state.attempts)).report result

/-- The next attempt is spawned. -/
def spawnNext (state : State) : State :=
  { state with
    attempts := state.attempts + 1
    phase := .spawned }

/-- The clock shows another time. -/
def setClock (state : State) (time : Nat) : State :=
  { state with clock := time }

/-- The dial of the attempt begins. -/
def beginDial (plan : Plan) (state : State) : State :=
  { state.record (.dialed state.attempts plan.relay plan.relayCredentials plan.port) with
    phase := .dialing state.clock }

/-- The dial hands out a tunnel, and with it a link. -/
def openTunnel (state : State) : State :=
  { state.record (.opened state.attempts) with phase := .connected }

/-- The execution through the tunnel begins. -/
def beginExecution (plan : Plan) (state : State) : State :=
  { state.record (.executed state.attempts plan.nodeCredentials plan.command) with
    phase := .executing state.clock
    executions := state.executions + 1 }

section

variable (hops : Hops) (plan : Plan) (deadline : Nat)

/-- How the dial of the attempt goes. -/
def dialStep (state : State) : Step Unit :=
  hops.dial (state.attempts - 1) plan.relay plan.relayCredentials plan.port

/-- How the execution that began last goes. -/
def executionStep (state : State) : Step (List UInt8) :=
  hops.execute (state.executions - 1) plan.nodeCredentials plan.command

/-- What the supervisor does when it is woken, unless it has to wait on. It looks for the
report of the attempt first and at the deadline then.
-/
def wakeSupervisor? (state : State) : Option State :=
  match state.returned with
  | some _ => none
  | none =>
      match state.phase.received? with
      | some result =>
          if isHandshakeEnd result && state.attempts < maxAttempts then
            some state.spawnNext
          else some (state.finish (outcomeOf state.attempts result))
      | none => if deadline ≤ state.clock then some (state.finish .timedOut) else none

/-- What the task of the attempt does when it is woken, unless it has to wait on or is over.
Once the token has been cancelled it looks at it before or after its hop; a hop that it looks
at first begins if it had not begun yet, and counts if it is over.
-/
def wakeAttempt? (hopFirst : Bool) (state : State) : Option State :=
  let stops := state.cancelled && !hopFirst
  match state.phase with
  | .spawned =>
      if stops then some (state.report (.error .timeout)) else some (state.beginDial plan)
  | .dialing began =>
      if stops then some (state.report (.error .timeout))
      else
        match (state.dialStep hops plan).progress began state.clock with
        | .pending => if state.cancelled then some (state.report (.error .timeout)) else none
        | .died => some state.die
        | .ended (.error failure) => some (state.report (.error failure))
        | .ended (.ok ()) => some state.openTunnel
  | .connected =>
      if stops then some (state.closeAndReport (.error .timeout))
      else some (state.beginExecution plan)
  | .executing began =>
      if stops then some (state.closeAndReport (.error .timeout))
      else
        match (state.executionStep hops plan).progress began state.clock with
        | .pending =>
            if state.cancelled then some (state.closeAndReport (.error .timeout)) else none
        | .died => some state.dieOpen
        | .ended result => some (state.closeAndReport result)
  | .reported _ => none
  | .lost => none

/-- When the hop that is under way is over, if there is one and it ever is. -/
def hopOver? (state : State) : Option Nat :=
  match state.phase with
  | .dialing began => (state.dialStep hops plan).over? began
  | .executing began => (state.executionStep hops plan).over? began
  | _ => none

/-- The times at which somebody has to be woken. -/
def timers (state : State) : List Nat :=
  (if state.returned.isNone then [deadline] else []) ++ (state.hopOver? hops plan).toList

/-- The clock moves to the next time at which somebody has to be woken. -/
def passTime? (state : State) : Option State :=
  (state.timers hops plan deadline).min?.map state.setClock

/-- The next state of a run, unless all its tasks are over. -/
def next? (choice : Choice) (state : State) : Option State :=
  let supervisor := state.wakeSupervisor? deadline
  let attempt := state.wakeAttempt? hops plan choice.hopFirst
  let woken :=
    if choice.attemptFirst then attempt.or supervisor else supervisor.or attempt
  woken.or (state.passTime? hops plan deadline)

/-- The state after one more step; a run whose tasks are over stays where it is. -/
def advance (choice : Choice) (state : State) : State :=
  (state.next? hops plan deadline choice).getD state

/-- The state after some steps. -/
def after (schedule : Schedule) : (steps : Nat) → State
  | 0 => initial
  | steps + 1 => (after schedule steps).advance hops plan deadline (schedule steps)

end

end State

end FleetOps.Supervision
