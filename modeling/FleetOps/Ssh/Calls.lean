import FleetOps.Ssh.Script

/-! The requests that reach the other sides in a supervised run, in order, with the attempt to
which each belongs. A hop that is cut off at the deadline asks for nothing more.
-/

namespace FleetOps.Ssh

namespace Request

/-- Whether a request hands a command to a node. -/
def submits : Request → Bool
  | submit _ => true
  | _ => false

/-- Whether a request is one of those that wind a connection down: waiting for what a command
still sends, and closing.
-/
def windsDown : Request → Bool
  | receive => true
  | closeSession => true
  | disconnect => true
  | _ => false

/-- What winds a connection down submits nothing. -/
theorem submits_of_windsDown {request : Request} (h : request.windsDown = true)
    : request.submits = false := by
  cases request <;> first | rfl | contradiction

end Request

/-- A request to one of the other sides and when it is made, in milliseconds since the run
began.
-/
structure Call where
  time : Nat
  attempt : Nat
  side : Side
  request : Request

/-- The calls of a hop that begins at a time, of all that it would ask the other side. -/
def callsOf {α : Type} (deadline attempt start : Nat) (side : Side)
    (timeline : Program.Timeline Request α)
    : List Call :=
  (timeline.asked.map fun asked => ⟨start + asked.1, attempt, side, asked.2⟩).filter
    fun call => call.time < deadline

namespace OtherSides

/-- The calls of the occurrences of a run after some dials and executions. -/
def callsFrom (sides : OtherSides) (deadline : Nat)
    : (dials executions : Nat) → List Supervision.Occurrence → List Call
  | _, _, [] => []
  | dials, executions, occurrence :: rest =>
      match occurrence.event with
      | .dialed attempt relay credentials port =>
          callsOf deadline attempt occurrence.time .relay
              (sides.dialing dials relay credentials port)
            ++ callsFrom sides deadline (dials + 1) executions rest
      | .executed attempt credentials command =>
          callsOf deadline attempt occurrence.time .node
              (sides.executing executions credentials command)
            ++ callsFrom sides deadline dials (executions + 1) rest
      | .closed attempt =>
          ⟨occurrence.time, attempt, .relay, .disconnect⟩
            :: callsFrom sides deadline dials executions rest
      | _ => callsFrom sides deadline dials executions rest

/-- The calls of a run. -/
def calls (sides : OtherSides) (deadline : Nat) (run : Supervision.Run) : List Call :=
  sides.callsFrom deadline 0 0 run.occurrences

end OtherSides

/-- How a node keeps the service out: it ends the key exchange with a fault, or the login with
it fails after all.
-/
inductive KeepsOut (node : Program.Surroundings Request Request.Answer)
    (credentials : Credentials) : Prop where
  | keyExchange {delay : Nat} {fault : Handshake.Fault}
      (answered : node [] .handshake = .after delay (.error fault))
  | login {delay time : Nat} {reason : String}
      (answered : node [] .handshake = .after delay (.ok ()))
      (failed
        : (Program.timeline node [.handshake] delay (authenticate credentials)).finish
          = some (time, .error reason))

end FleetOps.Ssh
