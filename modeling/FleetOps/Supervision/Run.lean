import FleetOps.Supervision.Plan

/-! A supervised run of a command. Each attempt dials a tunnel of its own and executes the
command through it; only a handshake that the node ended is tried again, and one deadline
covers all attempts. What ends at the deadline is too late, and an attempt that is cut off
there still closes its tunnel.
-/

namespace FleetOps.Supervision

/-- How often a command is attempted at most. -/
def maxAttempts : Nat := 3

/-- How a run ends. -/
inductive Outcome where
  | succeeded (output : List UInt8)
  | failed (failure : Failure)
  | timedOut

/-- The output of a run, or why there is none. -/
def Outcome.result : Outcome → Except Failure (List UInt8)
  | succeeded output => .ok output
  | failed failure => .error failure
  | timedOut => .error .timeout

/-- What happens in a run, with the number of the attempt. -/
inductive Event where
  | dialed (attempt : Nat) (relay : Relay) (credentials : Credentials) (port : UInt16)
  | opened (attempt : Nat)
  | executed (attempt : Nat) (credentials : Credentials) (command : String)
  | closed (attempt : Nat)
  | returned (outcome : Outcome)

/-- An event and when it happens, in milliseconds since the run began. -/
structure Occurrence where
  time : Nat
  event : Event

/-- One attempt: what happens before it ends or is cut off, when and with what it ends if
the deadline does not come first, and what happens once it has been cut off.
-/
structure Attempt where
  occurrences : List Occurrence
  result : Option (Nat × Except Failure (List UInt8))
  cleanup : List Occurrence

/-- The failure of an attempt that dies without a result. -/
def lostAttempt : Failure := .internal "command attempt ended without a result"

/-- The part of an attempt after its tunnel has been opened. -/
def executePart (plan : Plan) (deadline number opened : Nat) (step : Step (List UInt8))
    : Attempt :=
  let begun : List Occurrence :=
    [⟨opened, .opened number⟩,
      ⟨opened, .executed number plan.nodeCredentials plan.command⟩]
  let cut : Attempt :=
    {
      occurrences := begun
      result := none
      cleanup := [⟨deadline, .closed number⟩]
    }
  match step with
  | .hangs => cut
  | .dies delay =>
      if opened + delay < deadline then
        {
          occurrences := begun
          result := some (opened + delay, .error lostAttempt)
          cleanup := []
        }
      else cut
  | .ends delay result =>
      if opened + delay < deadline then
        {
          occurrences := begun ++ [⟨opened + delay, .closed number⟩]
          result := some (opened + delay, result)
          cleanup := []
        }
      else cut

/-- One attempt from a time on, given how its two hops go. -/
def attempt (plan : Plan) (deadline number start : Nat) (dial : Step Unit)
    (execution : Step (List UInt8))
    : Attempt :=
  let dialed : Occurrence :=
    ⟨start, .dialed number plan.relay plan.relayCredentials plan.port⟩
  let cut : Attempt := { occurrences := [dialed], result := none, cleanup := [] }
  match dial with
  | .hangs => cut
  | .dies delay =>
      if start + delay < deadline then
        {
          occurrences := [dialed]
          result := some (start + delay, .error lostAttempt)
          cleanup := []
        }
      else cut
  | .ends delay (.error failure) =>
      if start + delay < deadline then
        {
          occurrences := [dialed]
          result := some (start + delay, .error failure)
          cleanup := []
        }
      else cut
  | .ends delay (.ok ()) =>
      if start + delay < deadline then
        let rest := executePart plan deadline number (start + delay) execution
        { rest with occurrences := dialed :: rest.occurrences }
      else cut

/-- Whether an attempt came as far as executing the command. -/
def Attempt.executes (attempt : Attempt) : Bool :=
  attempt.occurrences.any fun occurrence =>
    match occurrence.event with
    | .executed _ _ _ => true
    | _ => false

/-- A run: how it ends, and everything that happens, in order. -/
structure Run where
  outcome : Outcome
  occurrences : List Occurrence

/-- The outcome to which the result of the last attempt amounts. -/
def outcomeOf (attempts : Nat) : Except Failure (List UInt8) → Outcome
  | .ok output => .succeeded output
  | .error .timeout => .timedOut
  | .error .handshakeEnded => .failed (.attemptsExhausted attempts)
  | .error failure => .failed failure

/-- Whether a result is a handshake that the node ended. -/
def isHandshakeEnd : Except Failure (List UInt8) → Bool
  | .error failure => failure.isHandshakeEnd
  | .ok _ => false

/-- The run from an attempt on: `left` more attempts may follow it, and `executions` of the
earlier ones came to execute the command.
-/
def runFrom (hops : Hops) (plan : Plan) (deadline : Nat)
    : (left number executions start : Nat) → Run
  | left, number, executions, start =>
      let current :=
        attempt plan deadline number start
          (hops.dial (number - 1) plan.relay plan.relayCredentials plan.port)
          (hops.execute executions plan.nodeCredentials plan.command)
      match current.result with
      | none =>
          {
            outcome := .timedOut
            occurrences :=
              current.occurrences ++ ⟨deadline, .returned .timedOut⟩ :: current.cleanup
          }
      | some (time, result) =>
          match left with
          | 0 =>
              let outcome := outcomeOf number result
              {
                outcome := outcome
                occurrences := current.occurrences ++ [⟨time, .returned outcome⟩]
              }
          | fewer + 1 =>
              if isHandshakeEnd result then
                let later :=
                  runFrom hops plan deadline fewer (number + 1)
                    (if current.executes then executions + 1 else executions) time
                { later with occurrences := current.occurrences ++ later.occurrences }
              else
                let outcome := outcomeOf number result
                {
                  outcome := outcome
                  occurrences := current.occurrences ++ [⟨time, .returned outcome⟩]
                }

/-- Runs a plan within a time limit in milliseconds. The limit is looked at only after the first
attempt has been spawned, so that its dial begins even if there is no time at all.
-/
def run (hops : Hops) (plan : Plan) (deadline : Nat) : Run :=
  runFrom hops plan deadline (maxAttempts - 1) 1 0 0

namespace Run

/-- How many dials a run makes. -/
def dials (run : Run) : Nat :=
  run.occurrences.countP fun occurrence =>
    match occurrence.event with
    | .dialed _ _ _ _ => true
    | _ => false

/-- How many executions a run begins. -/
def executions (run : Run) : Nat :=
  run.occurrences.countP fun occurrence =>
    match occurrence.event with
    | .executed _ _ _ => true
    | _ => false

/-- How many tunnels a run closes, those of attempts that were cut off included. -/
def closes (run : Run) : Nat :=
  run.occurrences.countP fun occurrence =>
    match occurrence.event with
    | .closed _ => true
    | _ => false

end Run

end FleetOps.Supervision
