/-! Procedures that ask their surroundings for one thing after another. What a procedure is
answered decides how it goes on, so that a statement about it can quantify over all answers,
and several procedures can be run with their requests in any order.
-/

namespace FleetOps

/-- A procedure: it is done with a value, or asks a request and goes on with the answer. -/
inductive Program (Request : Type) (Answer : Request → Type) (α : Type) where
  | done (value : α)
  | ask (request : Request) (next : Answer request → Program Request Answer α)

/-- How the surroundings answer a request: after a while, or never. -/
inductive Reply (α : Type) where
  | after (delay : Nat) (answer : α)
  | never

namespace Program

variable {Request : Type} {Answer : Request → Type} {α β σ : Type}

/-- Goes on with the value of a procedure. -/
def bind (program : Program Request Answer α) (next : α → Program Request Answer β)
    : Program Request Answer β :=
  match program with
  | done value => next value
  | ask request rest => ask request fun answer => bind (rest answer) next

/-- Runs a procedure to its end, where each answer may change a state. -/
def run (answer : (request : Request) → σ → Answer request × σ)
    : Program Request Answer α → σ → α × σ
  | done value, state => (value, state)
  | ask request next, state =>
      let (reply, later) := answer request state
      run answer (next reply) later

/-- Asks the next request of a procedure, if it is not done, where the answer may change a state.
-/
def advance (answer : (request : Request) → σ → Answer request × σ)
    : Program Request Answer α → σ → Program Request Answer α × σ
  | done value, state => (done value, state)
  | ask request next, state =>
      let (reply, later) := answer request state
      (next reply, later)

/-- Surroundings whose answers may depend on everything they were asked before. -/
abbrev Surroundings (Request : Type) (Answer : Request → Type) :=
  List Request → (request : Request) → Reply (Answer request)

/-- What a procedure asked and when, and when and with what it ended, if it did. -/
structure Timeline (Request : Type) (α : Type) where
  asked : List (Nat × Request)
  finish : Option (Nat × α)

/-- Runs a procedure from a time on, after the requests of `history`. -/
def timeline (surroundings : Surroundings Request Answer) (history : List Request)
    (now : Nat)
    : Program Request Answer α → Timeline Request α
  | done value => { asked := [], finish := some (now, value) }
  | ask request next =>
      match surroundings history request with
      | .never => { asked := [(now, request)], finish := none }
      | .after delay answer =>
          let later :=
            timeline surroundings (history ++ [request]) (now + delay) (next answer)
          { later with asked := (now, request) :: later.asked }

end Program

end FleetOps
