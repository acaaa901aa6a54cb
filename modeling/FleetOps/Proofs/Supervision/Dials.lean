import FleetOps.Proofs.Supervision.RunSteps

/-! Where a run goes. Whatever it comes to, each attempt dials the relay of the plan with the login
that the plan has for it, and executes the command of the plan with the login for the node.
-/

namespace FleetOps.Supervision

/-- A relay that is dialed, the login there, and the port of the tunnel that is asked for. -/
structure Dial where
  relay : Relay
  credentials : Credentials
  port : UInt16

/-- A command that is executed on a node, and the login there. -/
structure Execution where
  credentials : Credentials
  command : String

/-- The dial that a plan is for. -/
def Plan.dial (plan : Plan) : Dial :=
  { relay := plan.relay, credentials := plan.relayCredentials, port := plan.port }

/-- The execution that a plan is for. -/
def Plan.execution (plan : Plan) : Execution :=
  { credentials := plan.nodeCredentials, command := plan.command }

/-- The dial that an event begins. -/
def Event.dial? : Event → Option Dial
  | dialed _ relay credentials port =>
      some { relay := relay, credentials := credentials, port := port }
  | _ => none

/-- The execution that an event begins. -/
def Event.execution? : Event → Option Execution
  | executed _ credentials command => some { credentials := credentials, command := command }
  | _ => none

/-- The dials of a run, those of all its attempts. -/
def Run.dialed (run : Run) : List Dial := run.occurrences.filterMap (·.event.dial?)

/-- The executions of a run, those of all its attempts. -/
def Run.executed (run : Run) : List Execution := run.occurrences.filterMap (·.event.execution?)

/-- Whatever is dialed or executed is what the plan is for. -/
structure GoesBy (plan : Plan) (history : List Occurrence) : Prop where
  dial : ∀ dial ∈ history.filterMap (·.event.dial?), dial = plan.dial
  execution : ∀ execution ∈ history.filterMap (·.event.execution?), execution = plan.execution

namespace GoesBy

variable {plan : Plan} {time : Nat} {history more : List Occurrence}

/-- Nothing goes by any plan. -/
theorem nil : GoesBy plan [] := ⟨nofun, nofun⟩

/-- What goes by the plan goes by it with more that does. -/
theorem append (first : GoesBy plan history) (later : GoesBy plan more)
    : GoesBy plan (history ++ more) := by
  constructor
  · intro dial made
    rw [List.filterMap_append, List.mem_append] at made
    exact made.elim (first.dial dial) (later.dial dial)
  · intro execution made
    rw [List.filterMap_append, List.mem_append] at made
    exact made.elim (first.execution execution) (later.execution execution)

/-- An event that begins no hop can come before anything. -/
theorem cons {event : Event} (idle : event.dial? = none ∧ event.execution? = none)
    (later : GoesBy plan history)
    : GoesBy plan (⟨time, event⟩ :: history) := by
  constructor
  · simpa [idle.1] using later.dial
  · simpa [idle.2] using later.execution

/-- A dial of the plan's relay goes by the plan. -/
theorem dialed (number : Nat) (later : GoesBy plan history)
    : GoesBy plan (⟨time, .dialed number plan.relay plan.relayCredentials plan.port⟩ :: history) :=
  ⟨List.forall_mem_cons.mpr ⟨rfl, later.dial⟩, later.execution⟩

/-- An execution of the plan's command goes by the plan. -/
theorem executed (number : Nat) (later : GoesBy plan history)
    : GoesBy plan (⟨time, .executed number plan.nodeCredentials plan.command⟩ :: history) :=
  ⟨later.dial, List.forall_mem_cons.mpr ⟨rfl, later.execution⟩⟩

end GoesBy

/-- An attempt goes by the plan, and so does what is left to do once it has been cut off. -/
def Attempt.Obeys (plan : Plan) (attempt : Attempt) : Prop :=
  GoesBy plan attempt.occurrences ∧ GoesBy plan attempt.cleanup

/-- The execution part obeys the plan, by cases on how the execution goes. -/
theorem executePart_obeys (plan : Plan) (deadline number opened : Nat)
    (step : Step (List UInt8))
    : (executePart plan deadline number opened step).Obeys plan := by
  have begun : GoesBy plan
      [⟨opened, .opened number⟩,
        ⟨opened, .executed number plan.nodeCredentials plan.command⟩] :=
    .cons ⟨rfl, rfl⟩ (.executed number .nil)
  have closed (time : Nat) : GoesBy plan [⟨time, .closed number⟩] := .cons ⟨rfl, rfl⟩ .nil
  unfold executePart
  cases step with
  | hangs => exact ⟨begun, closed deadline⟩
  | dies delay =>
      dsimp only
      split
      · exact ⟨begun, .nil⟩
      · exact ⟨begun, closed deadline⟩
  | ends delay result =>
      dsimp only
      split
      · exact ⟨begun.append (closed _), .nil⟩
      · exact ⟨begun, closed deadline⟩

/-- An attempt obeys the plan, by cases on how its dial goes. -/
theorem attempt_obeys (plan : Plan) (deadline number start : Nat) (dial : Step Unit)
    (execution : Step (List UInt8))
    : (attempt plan deadline number start dial execution).Obeys plan := by
  have dialed : GoesBy plan
      [⟨start, .dialed number plan.relay plan.relayCredentials plan.port⟩] :=
    .dialed number .nil
  unfold attempt
  split
  · exact ⟨dialed, .nil⟩
  · split
    · exact ⟨dialed, .nil⟩
    · exact ⟨dialed, .nil⟩
  · split
    · exact ⟨dialed, .nil⟩
    · exact ⟨dialed, .nil⟩
  · split
    · obtain ⟨rest, cleanup⟩ := executePart_obeys plan deadline number _ execution
      exact ⟨.dialed number rest, cleanup⟩
    · exact ⟨dialed, .nil⟩

/-- All attempts of a run go by its plan, by induction over the attempts. -/
theorem run_goesBy (hops : Hops) (plan : Plan) (deadline : Nat)
    : GoesBy plan (run hops plan deadline).occurrences := by
  have returned (time : Nat) (outcome : Outcome) {history : List Occurrence}
      (later : GoesBy plan history)
      : GoesBy plan (⟨time, .returned outcome⟩ :: history) :=
    .cons ⟨rfl, rfl⟩ later
  refine @runFrom_induct hops plan deadline
    (fun _ _ _ _ later => GoesBy plan later.occurrences) ?cutOff ?settles ?retries _ _ _ _
  case cutOff =>
    intro _ _ _ _ _
    obtain ⟨went, cleanup⟩ := attempt_obeys plan deadline _ _ _ _
    exact went.append (returned deadline .timedOut cleanup)
  case settles =>
    intro _ _ _ _ time _ _ _
    exact (attempt_obeys plan deadline _ _ _ _).1.append (returned time _ .nil)
  case retries =>
    intro _ _ _ _ _ _ _ _ _ later
    exact (attempt_obeys plan deadline _ _ _ _).1.append later

end FleetOps.Supervision
