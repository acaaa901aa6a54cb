import FleetOps.Supervision.Run

/-! What a list of occurrences tells of the attempts: which of them were dialed and executed,
and whose links were opened and closed.
-/

namespace FleetOps.Supervision

namespace Event

/-- The attempt that an event dials. -/
def dialed? : Event → Option Nat
  | dialed attempt _ _ _ => some attempt
  | _ => none

/-- The attempt that an event executes. -/
def executed? : Event → Option Nat
  | executed attempt _ _ => some attempt
  | _ => none

/-- The attempt whose link an event opens. -/
def opened? : Event → Option Nat
  | opened attempt => some attempt
  | _ => none

/-- The attempt whose link an event closes. -/
def closed? : Event → Option Nat
  | closed attempt => some attempt
  | _ => none

/-- Whether an event begins a hop. -/
def beginsHop : Event → Bool
  | dialed _ _ _ _ => true
  | executed _ _ _ => true
  | _ => false

end Event

/-- The attempts that the events of a history name under a view, in order. -/
def attemptsIn (view : Event → Option Nat) (history : List Occurrence) : List Nat :=
  history.filterMap fun occurrence => view occurrence.event

section

variable (view : Event → Option Nat)

@[simp] theorem attemptsIn_nil : attemptsIn view [] = [] := rfl

@[simp] theorem attemptsIn_cons (time : Nat) (event : Event) (rest : List Occurrence)
    : attemptsIn view (⟨time, event⟩ :: rest) = (view event).toList ++ attemptsIn view rest := by
  cases named : view event <;> simp [attemptsIn, named]

@[simp] theorem attemptsIn_append (history more : List Occurrence)
    : attemptsIn view (history ++ more) = attemptsIn view history ++ attemptsIn view more :=
  List.filterMap_append

end

/-- The attempts that are dialed. -/
abbrev dialedIn (history : List Occurrence) : List Nat := attemptsIn Event.dialed? history

/-- The attempts that are executed. -/
abbrev executedIn (history : List Occurrence) : List Nat := attemptsIn Event.executed? history

/-- The attempts whose links are opened. -/
abbrev openedIn (history : List Occurrence) : List Nat := attemptsIn Event.opened? history

/-- The attempts whose links are closed, with repetitions. -/
abbrev closedIn (history : List Occurrence) : List Nat := attemptsIn Event.closed? history

end FleetOps.Supervision
