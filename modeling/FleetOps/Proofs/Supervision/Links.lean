import FleetOps.Proofs.Supervision.TaskPaths

/-! The links of a run. In every state at most one of them is open, and which one it can be is
told by the phase of the last attempt: this is what each move preserves, whatever is chosen.
When the tasks have come to rest, only the link of an attempt that died in its execution has
not been closed.
-/

namespace FleetOps.Supervision

variable {hops : Hops} {plan : Plan} {deadline : Nat} {schedule : Schedule}

section

variable (state : State) (event : Event)

/-- What happens now is put after what has happened. -/
@[simp] theorem attemptsIn_record (view : Event → Option Nat)
    : attemptsIn view (state.record event).history
      = attemptsIn view state.history ++ (view event).toList := by
  simp [State.record]

end

-----------------------------------------------------------------------------------------
-- What each move preserves
-----------------------------------------------------------------------------------------

/-- Whether the attempt of a phase has no tunnel yet. -/
def Phase.IsBeforeTunnel : Phase → Prop
  | spawned => True
  | dialing _ => True
  | _ => False

/-- Whether the attempt of a phase has a tunnel. -/
def Phase.IsTunneled : Phase → Prop
  | connected => True
  | executing _ => True
  | _ => False

/-- The links that nobody has closed yet: that of an attempt with a tunnel, and that of an
attempt that died in its execution.
-/
def State.held (state : State) : List Nat :=
  match state.phase with
  | .connected => state.panicked ++ [state.attempts]
  | .executing _ => state.panicked ++ [state.attempts]
  | _ => state.panicked

/-- With its tunnel an attempt holds a link. -/
theorem State.held_tunneled {state : State} (tunneled : state.phase.IsTunneled)
    : state.held = state.panicked ++ [state.attempts] := by
  unfold held
  cases phase : state.phase with
  | connected | executing => rfl
  | spawned | dialing | reported | lost => simp [phase, Phase.IsTunneled] at tunneled

/-- Without a tunnel an attempt holds a link only if it died. -/
theorem State.held_untunneled {state : State} (without : ¬ state.phase.IsTunneled)
    : state.held = state.panicked := by
  unfold held
  cases phase : state.phase with
  | connected | executing => simp [phase, Phase.IsTunneled] at without
  | spawned | dialing | reported | lost => rfl

/-- An attempt that has not been given a tunnel yet has none. -/
theorem Phase.IsBeforeTunnel.untunneled {phase : Phase} (before : phase.IsBeforeTunnel)
    : ¬ phase.IsTunneled := by
  cases phase with
  | connected | executing => exact before.elim
  | spawned | dialing | reported | lost => exact id

/-- An attempt that has something to send or has died has no tunnel any more. -/
theorem Phase.untunneled {phase : Phase} {result : Except Failure (List UInt8)}
    (received : phase.received? = some result)
    : ¬ phase.IsTunneled := by
  cases phase with
  | connected | executing => contradiction
  | spawned | dialing | reported | lost => exact id

/-- An attempt that has nothing to send and has not died is alive. -/
theorem Phase.alive {phase : Phase} (unreceived : phase.received? = none) : phase ≠ .lost := by
  rintro rfl
  contradiction

/-- An attempt without a tunnel so far has nothing to send and has not died. -/
theorem Phase.IsBeforeTunnel.unreceived {phase : Phase} (before : phase.IsBeforeTunnel)
    : phase.received? = none := by
  cases phase with
  | reported | lost => exact before.elim
  | spawned | dialing | connected | executing => rfl

/-- An attempt with a tunnel has nothing to send and has not died. -/
theorem Phase.IsTunneled.unreceived {phase : Phase} (tunneled : phase.IsTunneled)
    : phase.received? = none := by
  cases phase with
  | reported | lost => exact tunneled.elim
  | spawned | dialing | connected | executing => rfl

/-- What every move of a run preserves. The link of an attempt enters the history with its
tunnel and is held until it is closed, so that all earlier links are closed.
-/
structure Orderly (hops : Hops) (plan : Plan) (state : State) : Prop where
  token : state.cancelled = state.returned.isSome
  links : openedIn state.history = closedIn state.history ++ state.held
  once : (openedIn state.history).Nodup
  opened : ∀ attempt ∈ openedIn state.history, attempt ≤ state.attempts
  fresh : state.phase.IsBeforeTunnel → state.attempts ∉ openedIn state.history
  dialed : ∀ attempt ∈ dialedIn state.history, attempt ≤ state.attempts
  panicked : state.panicked = [] ∨ state.panicked = [state.attempts] ∧ state.phase = .lost
  died
    : ∀ attempt ∈ state.panicked,
        ∃ before delay,
          hops.execute before plan.nodeCredentials plan.command = .dies delay
  ended
    : ∀ outcome,
        state.returned = some outcome
        → outcome ≠ .timedOut
        → ∃ result, state.phase.received? = some result
  handedOut
    : ∀ attempt ∈ openedIn state.history,
        ∃ delay,
          hops.dial (attempt - 1) plan.relay plan.relayCredentials plan.port
            = .ends delay (.ok ())

/-- In the beginning there are no links. -/
theorem Orderly.initial : Orderly hops plan .initial where
  token := rfl
  links := rfl
  once := List.nodup_nil
  opened := by simp [State.initial, openedIn]
  fresh := by simp [State.initial, openedIn]
  dialed := by simp [State.initial, dialedIn]
  panicked := .inl rfl
  died := by simp [State.initial]
  ended := by simp [State.initial]
  handedOut := by simp [State.initial, openedIn]

/-- Unless it died in its execution, an attempt holds no other link than its own. -/
theorem Orderly.none_panicked {state : State} (h : Orderly hops plan state)
    (alive : state.phase ≠ .lost)
    : state.panicked = [] :=
  h.panicked.resolve_right fun died => alive died.2

/-- Before it has anything to send or has died, an attempt finds the run returned only with a
timeout.
-/
theorem Orderly.unreceived {state : State} {outcome : Outcome} (h : Orderly hops plan state)
    (unreceived : state.phase.received? = none) (returned : state.returned = some outcome)
    : outcome = .timedOut := by
  by_contra other
  obtain ⟨result, received⟩ := h.ended outcome returned other
  rw [unreceived] at received
  contradiction

/-- The clock has nothing to do with the links. -/
theorem Orderly.setClock {state : State} (h : Orderly hops plan state) (time : Nat)
    : Orderly hops plan (state.setClock time) :=
  { h with }

/-- An attempt that never had a tunnel reports or dies without touching a link. -/
theorem Orderly.leave {state : State} {phase : Phase} {result : Except Failure (List UInt8)}
    (h : Orderly hops plan state) (before : state.phase.IsBeforeTunnel)
    (finished : phase.received? = some result)
    : Orderly hops plan { state with phase := phase } := by
  have closed : openedIn state.history = closedIn state.history ++ state.panicked :=
    h.links.trans (by rw [State.held_untunneled before.untunneled])
  have held : State.held { state with phase := phase } = state.panicked :=
    State.held_untunneled (Phase.untunneled finished)
  exact { h with
    links := closed.trans (by rw [held])
    fresh := fun again => by
      rw [again.unreceived] at finished
      contradiction
    panicked := .inl (h.none_panicked (Phase.alive before.unreceived))
    ended := fun outcome _ _ => ⟨result, finished⟩
  }

/-- The supervisor spawns another attempt only when no link is held. -/
theorem Orderly.spawnNext {state : State} {result : Except Failure (List UInt8)}
    (h : Orderly hops plan state) (waiting : state.returned = none)
    (received : state.phase.received? = some result) (again : isHandshakeEnd result = true)
    : Orderly hops plan state.spawnNext := by
  have alive : state.phase ≠ .lost := by
    intro lost
    rw [lost] at received
    cases received
    contradiction
  exact {
    token := h.token
    links := h.links.trans (by rw [State.held_untunneled (Phase.untunneled received)]; rfl)
    once := h.once
    opened := fun attempt member => Nat.le_succ_of_le (h.opened attempt member)
    fresh := fun _ member => absurd (h.opened _ member) (Nat.not_succ_le_self _)
    dialed := fun attempt member => Nat.le_succ_of_le (h.dialed attempt member)
    panicked := .inl (h.none_panicked alive)
    died := h.died
    ended := fun _ returned => by simp [State.spawnNext, waiting] at returned
    handedOut := h.handedOut
  }

/-- The run returns; anything but a timeout it has received. -/
theorem Orderly.finish {state : State} {outcome : Outcome} (h : Orderly hops plan state)
    (received : outcome ≠ .timedOut → ∃ result, state.phase.received? = some result)
    : Orderly hops plan (state.finish outcome) := by
  have opened : openedIn (state.finish outcome).history = openedIn state.history := by
    simp [State.finish, Event.opened?]
  exact {
    token := rfl
    links := by
      rw [opened, h.links]
      simp [State.finish, State.held, Event.closed?]
    once := opened ▸ h.once
    opened := opened ▸ h.opened
    fresh := opened ▸ h.fresh
    dialed := by simpa [State.finish, Event.dialed?] using h.dialed
    panicked := h.panicked
    died := h.died
    ended := by
      intro other returned
      cases returned
      exact received
    handedOut := opened ▸ h.handedOut
  }

/-- The dial of a spawned attempt begins. -/
theorem Orderly.beginDial {state : State} (h : Orderly hops plan state)
    (phase : state.phase = .spawned)
    : Orderly hops plan (state.beginDial plan) := by
  have opened : openedIn (state.beginDial plan).history = openedIn state.history := by
    simp [State.beginDial, Event.opened?]
  have dialed : dialedIn (state.beginDial plan).history
      = dialedIn state.history ++ [state.attempts] := by
    simp [State.beginDial, Event.dialed?]
  exact {
    token := h.token
    links := by
      rw [opened, h.links]
      simp [State.beginDial, State.held, phase, Event.closed?]
    once := opened ▸ h.once
    opened := opened ▸ h.opened
    fresh := fun _ => opened ▸ h.fresh (by rw [phase]; trivial)
    dialed := by
      rw [dialed]
      exact List.forall_mem_append.mpr ⟨h.dialed, List.forall_mem_singleton.mpr (Nat.le_refl _)⟩
    panicked := .inl (h.none_panicked (by simp [phase]))
    died := h.died
    ended := fun outcome returned other =>
      absurd (h.unreceived (by rw [phase]; rfl) returned) other
    handedOut := opened ▸ h.handedOut
  }

/-- With the tunnel of a dial its link is held. -/
theorem Orderly.openTunnel {state : State} {began delay : Nat} (h : Orderly hops plan state)
    (phase : state.phase = .dialing began)
    (goes : state.dialStep hops plan = .ends delay (.ok ()))
    : Orderly hops plan state.openTunnel := by
  have fresh := h.fresh (by rw [phase]; trivial)
  have opened : openedIn state.openTunnel.history
      = openedIn state.history ++ [state.attempts] := by
    simp [State.openTunnel, Event.opened?]
  exact {
    token := h.token
    links := by
      rw [opened, h.links]
      simp [State.openTunnel, State.held, phase, Event.closed?]
    once := by
      rw [opened, List.nodup_append]
      refine ⟨h.once, by simp, ?_⟩
      intro attempt member other same equal
      rw [List.mem_singleton] at same
      exact fresh (same ▸ equal ▸ member)
    opened := by
      rw [opened]
      exact List.forall_mem_append.mpr ⟨h.opened, List.forall_mem_singleton.mpr (Nat.le_refl _)⟩
    fresh := fun before => before.elim
    dialed := by simpa [State.openTunnel, Event.dialed?] using h.dialed
    panicked := .inl (h.none_panicked (by simp [phase]))
    died := h.died
    ended := fun outcome returned other =>
      absurd (h.unreceived (by rw [phase]; rfl) returned) other
    handedOut := by
      rw [opened]
      exact List.forall_mem_append.mpr ⟨h.handedOut, List.forall_mem_singleton.mpr ⟨delay, goes⟩⟩
  }

/-- The execution through a tunnel begins with the link that is held. -/
theorem Orderly.beginExecution {state : State} (h : Orderly hops plan state)
    (phase : state.phase = .connected)
    : Orderly hops plan (state.beginExecution plan) := by
  have opened : openedIn (state.beginExecution plan).history = openedIn state.history := by
    simp [State.beginExecution, Event.opened?]
  exact {
    token := h.token
    links := by
      rw [opened, h.links]
      simp [State.beginExecution, State.held, phase, Event.closed?]
    once := opened ▸ h.once
    opened := opened ▸ h.opened
    fresh := fun before => before.elim
    dialed := by simpa [State.beginExecution, Event.dialed?] using h.dialed
    panicked := .inl (h.none_panicked (by simp [phase]))
    died := h.died
    ended := fun outcome returned other =>
      absurd (h.unreceived (by rw [phase]; rfl) returned) other
    handedOut := opened ▸ h.handedOut
  }

/-- The link of an attempt with a tunnel is closed, and with it all links are. -/
theorem Orderly.closeAndReport {state : State} (h : Orderly hops plan state)
    (tunneled : state.phase.IsTunneled) (result : Except Failure (List UInt8))
    : Orderly hops plan (state.closeAndReport result) := by
  have none : state.panicked = [] := h.none_panicked (Phase.alive tunneled.unreceived)
  have opened : openedIn (state.closeAndReport result).history = openedIn state.history := by
    simp [State.closeAndReport, State.report, Event.opened?]
  exact {
    token := h.token
    links := by
      rw [opened, h.links, State.held_tunneled tunneled]
      simp [State.closeAndReport, State.report, State.held, none, Event.closed?]
    once := opened ▸ h.once
    opened := opened ▸ h.opened
    fresh := fun before => before.elim
    dialed := by
      simpa [State.closeAndReport, State.report, Event.dialed?] using h.dialed
    panicked := .inl none
    died := h.died
    ended := fun _ _ _ => ⟨result, rfl⟩
    handedOut := opened ▸ h.handedOut
  }

/-- An attempt that dies in its execution holds its link for good. -/
theorem Orderly.dieOpen {state : State} {began delay : Nat} (h : Orderly hops plan state)
    (phase : state.phase = .executing began)
    (goes : state.executionStep hops plan = .dies delay)
    : Orderly hops plan state.dieOpen := by
  have none : state.panicked = [] := h.none_panicked (by simp [phase])
  exact { h with
    links := by simpa [State.dieOpen, State.held, phase] using h.links
    fresh := fun before => before.elim
    panicked := .inr ⟨by simp [State.dieOpen, none], rfl⟩
    died := fun _ _ => ⟨state.executions - 1, delay, goes⟩
    ended := fun _ _ _ => ⟨_, rfl⟩
  }

/-- Every move keeps a run in order, by the cases of the moves. -/
theorem Orderly.move {state later : State} (h : Orderly hops plan state)
    (moves : Move hops plan deadline state later)
    : Orderly hops plan later := by
  cases moves with
  | retry waiting received again _ => exact h.spawnNext waiting received again
  | settle waiting received => exact h.finish fun _ => ⟨_, received⟩
  | expire waiting unreceived => exact h.finish fun other => absurd rfl other
  | dial fresh => exact h.beginDial fresh
  | abandon before =>
      refine h.leave ?_ rfl
      rcases before with phase | ⟨began, phase⟩ <;> rw [phase] <;> trivial
  | dialDies dialing => exact h.leave (by rw [dialing]; trivial) rfl
  | dialFails dialing => exact h.leave (by rw [dialing]; trivial) rfl
  | dialOpens dialing goes => exact h.openTunnel dialing goes
  | execute connected => exact h.beginExecution connected
  | cut tunneled =>
      refine h.closeAndReport ?_ _
      rcases tunneled with phase | ⟨began, phase⟩ <;> rw [phase] <;> trivial
  | executionDies executing goes => exact h.dieOpen executing goes
  | executionEnds executing => exact h.closeAndReport (by rw [executing]; trivial) _
  | pass waits due => exact h.setClock _

/-- Every state of a run is orderly, by induction over its steps. -/
theorem Orderly.after (hops : Hops) (plan : Plan) (deadline : Nat) (schedule : Schedule)
    (steps : Nat)
    : Orderly hops plan (State.after hops plan deadline schedule steps) := by
  induction steps with
  | zero => exact .initial
  | succ steps ih =>
      simp only [State.after, State.advance]
      cases next : (State.after hops plan deadline schedule steps).next? hops plan deadline
          (schedule steps) with
      | none => exact ih
      | some later => exact ih.move (.of_next next)

-----------------------------------------------------------------------------------------
-- Which links are held, and how a run rests
-----------------------------------------------------------------------------------------

/-- No move takes back what has happened. -/
theorem Move.history_grows {state later : State} (moves : Move hops plan deadline state later)
    : state.history <+: later.history := by
  cases moves with
  | retry | abandon | dialDies | dialFails | executionDies | pass => exact List.prefix_rfl
  | settle | expire | dial | dialOpens | execute | cut | executionEnds =>
      exact List.prefix_append _ _

/-- What has happened is the beginning of what happens until later. -/
theorem after_history_grows {first last : Nat} (h : first ≤ last)
    : (State.after hops plan deadline schedule first).history
      <+: (State.after hops plan deadline schedule last).history := by
  induction last, h using Nat.le_induction with
  | base => exact List.prefix_rfl
  | succ last _ ih =>
      refine ih.trans ?_
      simp only [State.after, State.advance]
      cases next : (State.after hops plan deadline schedule last).next? hops plan deadline
          (schedule last) with
      | none => exact List.prefix_rfl
      | some later => exact Move.history_grows (.of_next next)

/-- What has happened in any state is the beginning of what has when the run rests. -/
theorem State.AtRest.history_grows {last : Nat} {outcome : Outcome} {history : List Occurrence}
    (rests
      : (State.after hops plan deadline schedule last).AtRest hops plan deadline outcome history)
    (steps : Nat)
    : (State.after hops plan deadline schedule steps).history <+: history := by
  rw [← rests.history]
  rcases Nat.le_total steps last with before | later
  · exact after_history_grows before
  · rw [after_stays later rests.finished]

/-- A run rests in one state only. -/
theorem State.Rests.unique {first last : Nat}
    (rests : (State.after hops plan deadline schedule first).Rests hops plan deadline)
    (again : (State.after hops plan deadline schedule last).Rests hops plan deadline)
    : State.after hops plan deadline schedule first
      = State.after hops plan deadline schedule last := by
  rcases Nat.le_total first last with before | later
  · exact (after_stays before rests).symm
  · exact after_stays later again

/-- All hops that begin in a history begin before the deadline. -/
def InTime (deadline : Nat) (history : List Occurrence) : Prop :=
  ∀ occurrence ∈ history, occurrence.event.beginsHop = true → occurrence.time < deadline

/-- Histories in time are so one after the other. -/
theorem InTime.append {history more : List Occurrence} (first : InTime deadline history)
    (later : InTime deadline more)
    : InTime deadline (history ++ more) :=
  List.forall_mem_append.mpr ⟨first, later⟩

/-- What begins no hop can come first. -/
theorem InTime.cons {occurrence : Occurrence} {history : List Occurrence}
    (first : occurrence.event.beginsHop = true → occurrence.time < deadline)
    (later : InTime deadline history)
    : InTime deadline (occurrence :: history) :=
  List.forall_mem_cons.mpr ⟨first, later⟩

end FleetOps.Supervision
