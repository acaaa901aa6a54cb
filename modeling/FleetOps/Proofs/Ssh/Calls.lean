import FleetOps.Proofs.Ssh.Connection
import FleetOps.Proofs.Supervision.Scripts

/-! A run submits its command to the node once at most. Only a node that keeps the service out
makes for another attempt, and it can do so only as long as nothing has been submitted.
-/

namespace FleetOps.Ssh

open Supervision

variable {sides : OtherSides} {plan : Plan} {deadline : Nat}

-----------------------------------------------------------------------------------------
-- The calls of one hop
-----------------------------------------------------------------------------------------

/-- A call of a hop is one of the requests of its timeline, no later than its end. -/
theorem callsOf_mem {α : Type} {attempt start : Nat} {side : Side}
    {timeline : Program.Timeline Request α} (inOrder : timeline.InOrder 0) {call : Call}
    (h : call ∈ callsOf deadline attempt start side timeline)
    : call.attempt = attempt
      ∧ call.side = side
      ∧ call.request ∈ timeline.requests
      ∧ start ≤ call.time
      ∧ call.time < deadline
      ∧ ∀ delay value, timeline.finish = some (delay, value) → call.time ≤ start + delay := by
  simp only [callsOf, List.mem_filter, List.mem_map, decide_eq_true_iff] at h
  obtain ⟨⟨asked, member, rfl⟩, inTime⟩ := h
  refine ⟨rfl, rfl, List.mem_map_of_mem member, Nat.le_add_right _ _, inTime, ?_⟩
  intro delay value finish
  exact Nat.add_le_add_left ((inOrder.finish delay value finish).2 asked member) start

/-- The calls of a procedure are in the order of its timeline. -/
theorem callsOf_sorted {α : Type} {attempt start : Nat} {side : Side}
    {timeline : Program.Timeline Request α} (inOrder : timeline.InOrder 0)
    : (callsOf deadline attempt start side timeline).Pairwise
        fun earlier later => earlier.time ≤ later.time := by
  refine List.Pairwise.filter _ (List.pairwise_map.mpr ?_)
  exact inOrder.sorted.imp fun h => Nat.add_le_add_left h start

/-- What relates the requests of a procedure in their order relates its calls. -/
theorem callsOf_pairwise {α : Type} {attempt start : Nat} {side : Side}
    {timeline : Program.Timeline Request α} {relates : Request → Request → Prop}
    (h : timeline.requests.Pairwise relates)
    : (callsOf deadline attempt start side timeline).Pairwise
        fun earlier later => relates earlier.request later.request :=
  List.Pairwise.filter _ (List.pairwise_map.mpr (List.pairwise_map.mp h))

/-- Calls of a history are the calls of its beginning and those that follow, after as many
dials and executions as it has begun with.
-/
theorem OtherSides.callsFrom_append (dials executions : Nat) (first rest : List Occurrence)
    : sides.callsFrom deadline dials executions (first ++ rest)
      = sides.callsFrom deadline dials executions first
        ++ sides.callsFrom deadline (dials + (dialedIn first).length)
          (executions + (executedIn first).length) rest := by
  induction first generalizing dials executions with
  | nil => rfl
  | cons head others ih =>
      obtain ⟨time, event⟩ := head
      cases event <;>
        simp [OtherSides.callsFrom, ih, Event.dialed?, Event.executed?, Nat.add_assoc,
          Nat.add_comm 1]

-----------------------------------------------------------------------------------------
-- The calls of one attempt
-----------------------------------------------------------------------------------------

/-- Calls from one time to another that submit nothing but the command of the plan, and only
to a node, and after that only wind down.
-/
structure Sequence (plan : Plan) (start finish : Nat) (calls : List Call) : Prop where
  span : start ≤ finish
  times : ∀ call ∈ calls, start ≤ call.time ∧ call.time ≤ finish
  sorted : calls.Pairwise fun earlier later => earlier.time ≤ later.time
  once
    : calls.Pairwise fun earlier later =>
        earlier.request.submits = true → later.request.windsDown = true
  own
    : ∀ call ∈ calls,
        call.request.submits = true → call.side = .node ∧ call.request = .submit plan.command

/-- One sequence may follow another that submits nothing, and any if it only winds down. -/
theorem Sequence.append {start middle finish : Nat} {calls more : List Call}
    (first : Sequence plan start middle calls) (second : Sequence plan middle finish more)
    (apart
      : (∀ call ∈ calls, call.request.submits = false)
        ∨ ∀ call ∈ more, call.request.windsDown = true)
    : Sequence plan start finish (calls ++ more) where
  span := first.span.trans second.span
  times := by
    refine List.forall_mem_append.mpr ⟨fun call member => ?_, fun call member => ?_⟩
    · exact (first.times call member).imp_right fun h => h.trans second.span
    · exact (second.times call member).imp_left first.span.trans
  sorted := by
    refine List.pairwise_append.mpr
      ⟨first.sorted, second.sorted, fun call before later after => ?_⟩
    exact (first.times call before).2.trans (second.times later after).1
  once := by
    refine List.pairwise_append.mpr
      ⟨first.once, second.once, fun call before later after submits => ?_⟩
    rcases apart with none | all
    · rw [none call before] at submits
      contradiction
    · exact all later after
  own := List.forall_mem_append.mpr ⟨first.own, second.own⟩

/-- A sequence of calls goes on with the end of the tunnel. -/
theorem Sequence.closed {start finish : Nat} {calls : List Call}
    (h : Sequence plan start finish calls) (attempt : Nat)
    : Sequence plan start finish (calls ++ [⟨finish, attempt, .relay, .disconnect⟩]) := by
  have close : Sequence plan finish finish [⟨finish, attempt, .relay, .disconnect⟩] :=
    ⟨Nat.le_refl _, by simp, List.pairwise_singleton _ _, List.pairwise_singleton _ _,
      by simp [Request.submits]⟩
  exact h.append close (.inr (by simp [Request.windsDown]))

/-- The calls of a hop that submits nothing but the command of the plan, and that to a node,
are a sequence up to the deadline, and up to its end if it comes to one.
-/
theorem callsOf_sequence {α : Type} {attempt start : Nat} {side : Side}
    {timeline : Program.Timeline Request α} (inOrder : timeline.InOrder 0)
    (once
      : timeline.requests.Pairwise fun earlier later =>
          earlier.submits = true → later.windsDown = true)
    (own
      : ∀ request ∈ timeline.requests,
          request.submits = true → side = .node ∧ request = .submit plan.command)
    (begun : start ≤ deadline)
    : Sequence plan start deadline (callsOf deadline attempt start side timeline)
      ∧ ∀ delay value,
          timeline.finish = some (delay, value)
          → Sequence plan start (start + delay)
              (callsOf deadline attempt start side timeline) := by
  have owned
      : ∀ call ∈ callsOf deadline attempt start side timeline,
          call.request.submits = true
          → call.side = .node ∧ call.request = .submit plan.command := by
    intro call member submits
    obtain ⟨_, same, asked, _⟩ := callsOf_mem inOrder member
    rw [same]
    exact own call.request asked submits
  constructor
  · refine ⟨begun, fun call member => ?_, callsOf_sorted inOrder, callsOf_pairwise once, owned⟩
    obtain ⟨_, _, _, since, inTime, _⟩ := callsOf_mem inOrder member
    exact ⟨since, inTime.le⟩
  · intro delay value finish
    refine ⟨Nat.le_add_right _ _, fun call member => ?_, callsOf_sorted inOrder,
      callsOf_pairwise once, owned⟩
    obtain ⟨_, _, _, since, _, last⟩ := callsOf_mem inOrder member
    exact ⟨since, last delay value finish⟩

section

variable (sides plan deadline)

/-- The calls of a dial, after some others. -/
def OtherSides.dialCalls (number dials start : Nat) : List Call :=
  callsOf deadline number start .relay
    (sides.dialing dials plan.relay plan.relayCredentials plan.port)

/-- The calls of an execution, after some others. -/
def OtherSides.executionCalls (number executions opened : Nat) : List Call :=
  callsOf deadline number opened .node
    (sides.executing executions plan.nodeCredentials plan.command)

end

/-- The calls of a dial are its attempt's, and submit nothing. -/
theorem OtherSides.dialCalls_mem {number dials start : Nat} {call : Call}
    (h : call ∈ sides.dialCalls plan deadline number dials start)
    : call.attempt = number ∧ call.request.submits = false := by
  obtain ⟨same, _, asked, _⟩ := callsOf_mem (Program.timeline_inOrder _ _ _) h
  exact ⟨same, openTunnel_submits _ _ _ call.request asked⟩

/-- The calls of a dial go by the plan until the deadline, and until the dial is over if it ever is.
-/
theorem OtherSides.dialCalls_sequence (number dials : Nat) {start : Nat}
    (begun : start ≤ deadline)
    : Sequence plan start deadline (sides.dialCalls plan deadline number dials start)
      ∧ ∀ delay value,
          (sides.dialing dials plan.relay plan.relayCredentials plan.port).finish
            = some (delay, value)
          → Sequence plan start (start + delay)
              (sides.dialCalls plan deadline number dials start) := by
  have submits :=
    @openTunnel_submits (sides.relay dials) plan.relay plan.relayCredentials plan.port
  refine callsOf_sequence (Program.timeline_inOrder _ _ _) ?_ ?_ begun
  · refine List.pairwise_of_forall_mem_list fun request asked _ _ submitted => ?_
    rw [submits request asked] at submitted
    contradiction
  · intro request asked submitted
    rw [submits request asked] at submitted
    contradiction

/-- The calls of an execution go by the plan until the deadline, and until it is over if it ever is.
-/
theorem OtherSides.executionCalls_sequence (number executions : Nat) {opened : Nat}
    (begun : opened ≤ deadline)
    : Sequence plan opened deadline (sides.executionCalls plan deadline number executions opened)
      ∧ ∀ delay value,
          (sides.executing executions plan.nodeCredentials plan.command).finish
            = some (delay, value)
          → Sequence plan opened (opened + delay)
              (sides.executionCalls plan deadline number executions opened) := by
  obtain ⟨once, own⟩ :=
    @execute_submits (sides.node executions) plan.nodeCredentials plan.command
  refine callsOf_sequence (Program.timeline_inOrder _ _ _) once ?_ begun
  intro request asked submitted
  exact ⟨rfl, (own request asked submitted).1⟩

/-- An execution that ends as a handshake end has submitted nothing. -/
theorem OtherSides.executionCalls_again {number executions opened delay : Nat}
    {result : Except Failure (List UInt8)}
    (finish
      : (sides.executing executions plan.nodeCredentials plan.command).finish
        = some (delay, result))
    (again : isHandshakeEnd result = true)
    : ∀ call ∈ sides.executionCalls plan deadline number executions opened,
        call.request.submits = false := by
  intro call member
  by_contra submits
  obtain ⟨_, _, asked, _⟩ := callsOf_mem (Program.timeline_inOrder _ _ _) member
  obtain ⟨_, own⟩ :=
    @execute_submits (sides.node executions) plan.nodeCredentials plan.command
  have other := (own call.request asked (eq_true_of_ne_false submits)).2 delay result finish
  rw [other] at again
  contradiction

/-- The calls of an attempt, or of its part after the dial: they are a sequence up to its end,
or up to the deadline if it is cut off; and if it ends as a handshake end it has come as far as
an execution, where the node kept the service out before anything was submitted.
-/
structure Frugal (sides : OtherSides) (plan : Plan)
    (deadline number dials executions start : Nat) (part : Attempt) : Prop where
  numbered
    : ∀ call ∈ sides.callsFrom deadline dials executions (part.occurrences ++ part.cleanup),
        call.attempt = number
  cutOff
    : part.result = none
      → Sequence plan start deadline
          (sides.callsFrom deadline dials executions (part.occurrences ++ part.cleanup))
  ended
    : ∀ time result,
        part.result = some (time, result)
        → time < deadline
          ∧ part.cleanup = []
          ∧ Sequence plan start time (sides.callsFrom deadline dials executions part.occurrences)
  again
    : ∀ time result,
        part.result = some (time, result)
        → isHandshakeEnd result = true
        → (∀ call ∈ sides.callsFrom deadline dials executions part.occurrences,
            call.request.submits = false)
          ∧ part.executes = true
          ∧ KeepsOut (sides.node executions) plan.nodeCredentials

/-- The execution of an attempt is frugal, whether it ends, is cut off or hangs. In each case
its calls are followed by the closing of the link.
-/
theorem executePart_frugal (number dials executions : Nat) {opened : Nat}
    (early : opened < deadline)
    : Frugal sides plan deadline number dials executions opened
        (executePart plan deadline number opened
          (stepOf (sides.executing executions plan.nodeCredentials plan.command))) := by
  obtain ⟨upToDeadline, upToEnd⟩ :=
    @OtherSides.executionCalls_sequence sides plan deadline number executions opened early.le
  have numbered
      : ∀ time,
          ∀ call ∈ sides.executionCalls plan deadline number executions opened
              ++ [⟨time, number, .relay, .disconnect⟩],
            call.attempt = number := by
    intro time
    refine List.forall_mem_append.mpr ⟨fun call member => ?_, by simp⟩
    exact (callsOf_mem (Program.timeline_inOrder _ _ _) member).1
  have cut
      : Frugal sides plan deadline number dials executions opened
          {
            occurrences :=
              [⟨opened, .opened number⟩,
                ⟨opened, .executed number plan.nodeCredentials plan.command⟩]
            result := none
            cleanup := [⟨deadline, .closed number⟩]
          } := by
    refine ⟨numbered deadline, fun _ => ?_, by simp, by simp⟩
    exact upToDeadline.closed number
  cases finish : (sides.executing executions plan.nodeCredentials plan.command).finish with
  | none => simpa only [stepOf, finish, executePart] using cut
  | some reached =>
      obtain ⟨delay, result⟩ := reached
      simp only [stepOf, finish, executePart]
      split
      · next inTime =>
          refine ⟨numbered (opened + delay), by simp, ?_, ?_⟩
          · rintro _ _ ⟨⟩
            exact ⟨inTime, rfl, (upToEnd delay result finish).closed number⟩
          · rintro _ _ ⟨⟩ again
            refine ⟨?_, rfl, execute_keepsOut finish again⟩
            exact List.forall_mem_append.mpr
              ⟨OtherSides.executionCalls_again finish again, List.forall_mem_singleton.mpr rfl⟩
      · exact cut

/-- A frugal part is so with its dial before it, which submits nothing. -/
theorem Frugal.prepend {number dials executions start opened : Nat} {part : Attempt}
    (rest : Frugal sides plan deadline number (dials + 1) executions opened part)
    (first : Sequence plan start opened (sides.dialCalls plan deadline number dials start))
    : Frugal sides plan deadline number dials executions start
        { part with
          occurrences :=
            ⟨start, .dialed number plan.relay plan.relayCredentials plan.port⟩
              :: part.occurrences } := by
  have unsubmitted
      : ∀ call ∈ sides.dialCalls plan deadline number dials start,
          call.request.submits = false := fun call member =>
    (OtherSides.dialCalls_mem member).2
  refine ⟨?_, fun cut => ?_, fun time result ended => ?_, fun time result ended again => ?_⟩
  · exact List.forall_mem_append.mpr
      ⟨fun call member => (OtherSides.dialCalls_mem member).1, rest.numbered⟩
  · exact first.append (rest.cutOff cut) (.inl unsubmitted)
  · obtain ⟨inTime, clean, sequence⟩ := rest.ended time result ended
    exact ⟨inTime, clean, first.append sequence (.inl unsubmitted)⟩
  · obtain ⟨others, executes, keptOut⟩ := rest.again time result ended again
    exact ⟨List.forall_mem_append.mpr ⟨unsubmitted, others⟩,
      Attempt.executes_prepend executes, keptOut⟩

/-- An attempt is frugal that does not come beyond its dial, and that is no handshake end. -/
theorem dialed_frugal {number dials executions start : Nat}
    {result : Option (Nat × Except Failure (List UInt8))}
    (cut
      : result = none
        → Sequence plan start deadline (sides.dialCalls plan deadline number dials start))
    (ended
      : ∀ time reply,
          result = some (time, reply)
          → time < deadline
            ∧ isHandshakeEnd reply = false
            ∧ Sequence plan start time (sides.dialCalls plan deadline number dials start))
    : Frugal sides plan deadline number dials executions start
        {
          occurrences := [⟨start, .dialed number plan.relay plan.relayCredentials plan.port⟩]
          result := result
          cleanup := []
        } := by
  have alone
      : sides.callsFrom deadline dials executions
          [⟨start, .dialed number plan.relay plan.relayCredentials plan.port⟩]
        = sides.dialCalls plan deadline number dials start := List.append_nil _
  refine ⟨?_, fun none => ?_, fun time reply some => ?_, fun time reply some again => ?_⟩
  · rw [List.append_nil, alone]
    exact fun call member => (OtherSides.dialCalls_mem member).1
  · rw [List.append_nil, alone]
    exact cut none
  · obtain ⟨inTime, _, sequence⟩ := ended time reply some
    rw [alone]
    exact ⟨inTime, rfl, sequence⟩
  · obtain ⟨_, other, _⟩ := ended time reply some
    rw [other] at again
    contradiction

/-- An attempt is frugal, and only after a dial that was given a tunnel does it end as a
handshake end.
-/
theorem attempt_frugal (number dials executions : Nat) {start : Nat} (early : start ≤ deadline)
    : Frugal sides plan deadline number dials executions start
          (attempt plan deadline number start
            (stepOf (sides.dialing dials plan.relay plan.relayCredentials plan.port))
            (stepOf (sides.executing executions plan.nodeCredentials plan.command)))
      ∧ ∀ time result,
          (attempt plan deadline number start
              (stepOf (sides.dialing dials plan.relay plan.relayCredentials plan.port))
              (stepOf (sides.executing executions plan.nodeCredentials plan.command))).result
            = some (time, result)
          → isHandshakeEnd result = true
          → ∃ opened,
              (sides.dialing dials plan.relay plan.relayCredentials plan.port).finish
                = some (opened, .ok ()) := by
  obtain ⟨upToDeadline, upToEnd⟩ :=
    @OtherSides.dialCalls_sequence sides plan deadline number dials start early
  cases finish : (sides.dialing dials plan.relay plan.relayCredentials plan.port).finish with
  | none =>
      simp only [stepOf, finish, attempt]
      exact ⟨dialed_frugal (fun _ => upToDeadline) (by simp), by simp⟩
  | some reached =>
      obtain ⟨delay, result⟩ := reached
      simp only [stepOf, finish]
      cases result with
      | error failure =>
          have other : isHandshakeEnd (.error failure) = false :=
            openTunnel_isHandshakeEnd finish
          simp only [attempt]
          split
          · next inTime =>
              refine ⟨dialed_frugal (by simp) ?_, ?_⟩
              · rintro _ _ ⟨⟩
                exact ⟨inTime, other, upToEnd delay _ finish⟩
              · rintro _ _ ⟨⟩ again
                rw [other] at again
                contradiction
          · exact ⟨dialed_frugal (fun _ => upToDeadline) (by simp), by simp⟩
      | ok _ =>
          simp only [attempt]
          split
          · next inTime =>
              have rest := @executePart_frugal sides plan deadline number (dials + 1) executions
                (start + delay) inTime
              exact ⟨rest.prepend (upToEnd delay _ finish), fun _ _ _ _ => ⟨delay, rfl⟩⟩
          · exact ⟨dialed_frugal (fun _ => upToDeadline) (by simp), by simp⟩

-----------------------------------------------------------------------------------------
-- The calls of a run
-----------------------------------------------------------------------------------------

/-- What a run from an attempt on asks for: a command is submitted at most once, in the last
attempt that is dialed, and another attempt comes only after one that its node kept out.
-/
structure AtMostOnceFrom (sides : OtherSides) (plan : Plan) (deadline attempts start : Nat)
    (run : Run) : Prop where
  sequence
    : ∃ finish,
        Sequence plan start finish
          (sides.callsFrom deadline attempts attempts run.occurrences)
  last
    : ∀ call ∈ sides.callsFrom deadline attempts attempts run.occurrences,
        call.request.submits = true
        → attempts < call.attempt ∧ ∀ dialed ∈ dialedIn run.occurrences, dialed ≤ call.attempt
  retried
    : ∀ earlier,
        attempts ≤ earlier
        → earlier + 2 ∈ dialedIn run.occurrences
        → (∃ opened,
            (sides.dialing earlier plan.relay plan.relayCredentials plan.port).finish
              = some (opened, .ok ()))
          ∧ KeepsOut (sides.node earlier) plan.nodeCredentials

/-- That the run returns makes no calls. -/
theorem OtherSides.callsFrom_returned (dials executions time : Nat) (outcome : Outcome)
    (first rest : List Occurrence)
    : sides.callsFrom deadline dials executions (first ++ ⟨time, .returned outcome⟩ :: rest)
      = sides.callsFrom deadline dials executions (first ++ rest) := by
  rw [callsFrom_append, callsFrom_append]
  rfl

/-- Both hops of an attempt that a run makes are answered by the sides that come next, if as
many executions as dials came before.
-/
theorem attemptAt_frugal (attempts : Nat) {start : Nat} (early : start ≤ deadline)
    : Frugal sides plan deadline (attempts + 1) attempts attempts start
          (attemptAt sides.hops plan deadline (attempts + 1) attempts start)
      ∧ ∀ time result,
          (attemptAt sides.hops plan deadline (attempts + 1) attempts start).result
            = some (time, result)
          → isHandshakeEnd result = true
          → ∃ opened,
              (sides.dialing attempts plan.relay plan.relayCredentials plan.port).finish
                = some (opened, .ok ()) :=
  attempt_frugal (attempts + 1) attempts attempts early

/-- A run whose last attempt is the present one submits its command at most once. -/
theorem Sequence.atMostOnceFrom {attempts start finish : Nat} {run : Run}
    (sequence
      : Sequence plan start finish (sides.callsFrom deadline attempts attempts run.occurrences))
    (numbered
      : ∀ call ∈ sides.callsFrom deadline attempts attempts run.occurrences,
          call.attempt = attempts + 1)
    (dialed : dialedIn run.occurrences = [attempts + 1])
    : AtMostOnceFrom sides plan deadline attempts start run where
  sequence := ⟨finish, sequence⟩
  last := by
    intro call member _
    rw [numbered call member, dialed]
    exact ⟨Nat.lt_succ_self _, by simp⟩
  retried := by
    intro earlier since again
    rw [dialed, List.mem_singleton] at again
    omega

/-- A run submits its command at most once from each of its attempts on, if as many executions
as dials came before.
-/
theorem runFrom_atMostOnceFrom (left attempts : Nat) {start : Nat} (early : start ≤ deadline)
    : AtMostOnceFrom sides plan deadline attempts start
        (runFrom sides.hops plan deadline left (attempts + 1) attempts start) := by
  refine runFrom_induct sides.hops plan deadline
    (motive := fun _ number attempts start run =>
      number = attempts + 1 → start ≤ deadline
      → AtMostOnceFrom sides plan deadline attempts start run)
    ?_ ?_ ?_ left (attempts + 1) attempts start rfl early
  · rintro left _ attempts start cut rfl early
    obtain ⟨frugal, _⟩ := @attemptAt_frugal sides plan deadline attempts start early
    obtain ⟨dials, clean⟩ :=
      attemptAt_dialed sides.hops plan deadline (attempts + 1) attempts start
    refine @Sequence.atMostOnceFrom sides plan deadline attempts start deadline _ ?_ ?_ ?_
    · rw [OtherSides.callsFrom_returned]
      exact frugal.cutOff cut
    · rw [OtherSides.callsFrom_returned]
      exact frugal.numbered
    · simp [dials, clean, Event.dialed?]
  · rintro left _ attempts start time result ended final rfl early
    obtain ⟨frugal, _⟩ := @attemptAt_frugal sides plan deadline attempts start early
    obtain ⟨dials, _⟩ :=
      attemptAt_dialed sides.hops plan deadline (attempts + 1) attempts start
    obtain ⟨inTime, clean, sequence⟩ := frugal.ended time result ended
    have numbered := frugal.numbered
    rw [clean] at numbered
    refine @Sequence.atMostOnceFrom sides plan deadline attempts start time _ ?_ ?_ ?_
    · rw [OtherSides.callsFrom_returned, List.append_nil]
      exact sequence
    · rw [OtherSides.callsFrom_returned]
      exact numbered
    · simp [dials, Event.dialed?]
  · rintro left _ attempts start time result later ended again ih rfl early
    obtain ⟨frugal, opens⟩ := @attemptAt_frugal sides plan deadline attempts start early
    obtain ⟨dials, _⟩ :=
      attemptAt_dialed sides.hops plan deadline (attempts + 1) attempts start
    obtain ⟨inTime, clean, sequence⟩ := frugal.ended time result ended
    obtain ⟨unsubmitted, executes, keptOut⟩ := frugal.again time result ended again
    have executed := attemptAt_executed executes
    simp only [executes, if_true] at ih
    obtain ⟨⟨finish, rest⟩, last, retried⟩ := ih trivial inTime.le
    have calls
        : sides.callsFrom deadline attempts attempts
            ((attemptAt sides.hops plan deadline (attempts + 1) attempts start).occurrences
              ++ later.occurrences)
          = sides.callsFrom deadline attempts attempts
              (attemptAt sides.hops plan deadline (attempts + 1) attempts start).occurrences
            ++ sides.callsFrom deadline (attempts + 1) (attempts + 1) later.occurrences := by
      rw [OtherSides.callsFrom_append, dials, executed]
      rfl
    refine ⟨⟨finish, ?_⟩, ?_, ?_⟩
    · rw [calls]
      exact sequence.append rest (.inl unsubmitted)
    · rw [calls]
      refine List.forall_mem_append.mpr
        ⟨fun call member submits => ?_, fun call member submits => ?_⟩
      · rw [unsubmitted call member] at submits
        contradiction
      · obtain ⟨beyond, all⟩ := last call member submits
        refine ⟨by omega, ?_⟩
        simp only [attemptsIn_append, dials]
        exact List.forall_mem_append.mpr ⟨by simp; omega, all⟩
    · intro earlier since next
      simp only [attemptsIn_append, dials] at next
      rcases Nat.eq_or_lt_of_le since with rfl | past
      · exact ⟨opens time result ended again, keptOut⟩
      · refine retried earlier past ((List.mem_append.mp next).resolve_left ?_)
        simp
        omega

/-- A run submits its command at most once from its first attempt on. -/
theorem run_atMostOnceFrom (sides : OtherSides) (plan : Plan) (deadline : Nat)
    : AtMostOnceFrom sides plan deadline 0 0 (run sides.hops plan deadline) :=
  runFrom_atMostOnceFrom (maxAttempts - 1) 0 (Nat.zero_le deadline)

/-- What nothing after it shares is there once at most, by induction on the list. -/
theorem countP_le_one {α : Type} {p : α → Bool} {list : List α}
    (h : list.Pairwise fun earlier later => p earlier = true → p later = false)
    : list.countP p ≤ 1 := by
  induction list with
  | nil => simp
  | cons head rest ih =>
      obtain ⟨first, others⟩ := List.pairwise_cons.mp h
      cases holds : p head with
      | false => simpa [List.countP_cons, holds] using ih others
      | true =>
          have none : rest.countP p = 0 := List.countP_eq_zero.mpr fun later member => by
            simp [first later member holds]
          simp [holds, none]

/-- The command of a plan is submitted at most once in a run, and only to the node. From then on
the run asks for nothing but what winds its connections down, and dials no more. A dial follows
another only if that was given a tunnel at whose end the node ended the key exchange or refused
the login.
-/
structure AtMostOnce (sides : OtherSides) (plan : Plan) (deadline : Nat) (run : Run) : Prop where
  once : (sides.calls deadline run).countP (·.request.submits) ≤ 1
  own
    : ∀ call ∈ sides.calls deadline run,
        call.request.submits = true → call.side = .node ∧ call.request = .submit plan.command
  sorted : (sides.calls deadline run).Pairwise fun earlier later => earlier.time ≤ later.time
  windsDown
    : (sides.calls deadline run).Pairwise fun earlier later =>
        earlier.request.submits = true → later.request.windsDown = true
  last
    : ∀ call ∈ sides.calls deadline run,
        call.request.submits = true
        → ∀ attempt ∈ dialedIn run.occurrences, attempt ≤ call.attempt
  retried
    : ∀ earlier,
        earlier + 2 ∈ dialedIn run.occurrences
        → (∃ opened,
            (sides.dialing earlier plan.relay plan.relayCredentials plan.port).finish
              = some (opened, .ok ()))
          ∧ KeepsOut (sides.node earlier) plan.nodeCredentials

/-- However the other sides answer, a run submits its command at most once. -/
theorem run_atMostOnce (sides : OtherSides) (plan : Plan) (deadline : Nat)
    : AtMostOnce sides plan deadline (run sides.hops plan deadline) := by
  obtain ⟨⟨finish, sequence⟩, last, retried⟩ := run_atMostOnceFrom sides plan deadline
  refine ⟨?_, sequence.own, sequence.sorted, sequence.once, ?_, ?_⟩
  · exact countP_le_one
      (sequence.once.imp fun down submits => Request.submits_of_windsDown (down submits))
  · intro call member submits
    exact (last call member submits).2
  · intro earlier
    exact retried earlier (Nat.zero_le earlier)

end FleetOps.Ssh
