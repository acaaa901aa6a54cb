import FleetOps.Failure
import FleetOps.Text.Quoted

/-! What a command on a node sends back: a stream of messages, of which the output and the
way the command ended are kept. Output counts only if the command ended well.
-/

namespace FleetOps.Ssh

/-- A message on the channel of a command. -/
inductive Message where
  | output (bytes : List UInt8)
  | errorOutput (bytes : List UInt8)
  | exitStatus (status : Nat)
  | exitSignal (name : String)
  | endOfOutput
  | close
  /-- Any other message; it has no effect. -/
  | notice

/-- How a command ended, as far as its node told. -/
inductive Exit where
  | status (status : Nat)
  | signal (name : String)
  | missing
  deriving DecidableEq

/-- What has been received from a command. -/
structure Received where
  output : List UInt8
  exit : Exit

namespace Received

/-- Nothing received so far. -/
def nothing : Received :=
  { output := [], exit := .missing }

/-- Takes over the messages up to the one that ends the command: a close, the end of the
stream, or an end of the output that comes after a status or a signal.
-/
def collect (received : Received) : List Message → Received
  | [] => received
  | .output bytes :: rest =>
      collect { received with output := received.output ++ bytes } rest
  | .errorOutput bytes :: rest =>
      collect { received with output := received.output ++ bytes } rest
  | .exitStatus status :: rest => collect { received with exit := .status status } rest
  | .exitSignal name :: rest => collect { received with exit := .signal name } rest
  | .endOfOutput :: rest =>
      match received.exit with
      | .missing => collect received rest
      | _ => received
  | .close :: _ => received
  | .notice :: rest => collect received rest

/-- Whether one of the messages ends the command. -/
def endsWithin (exit : Exit) : List Message → Bool
  | [] => false
  | .output _ :: rest => endsWithin exit rest
  | .errorOutput _ :: rest => endsWithin exit rest
  | .exitStatus status :: rest => endsWithin (.status status) rest
  | .exitSignal name :: rest => endsWithin (.signal name) rest
  | .endOfOutput :: rest =>
      match exit with
      | .missing => endsWithin exit rest
      | _ => true
  | .close :: _ => true
  | .notice :: rest => endsWithin exit rest

/-- The result of a command: its output if its status is zero, else how it ended. -/
def result (received : Received) : Except Failure (List UInt8) :=
  match received.exit with
  | .status 0 => .ok received.output
  | .status status =>
      .error (.execution
        ("failed to submit ssh command: Process exited with status " ++ toString status))
  | .signal name =>
      .error (.execution
        ("failed to submit ssh command: Process exited with signal " ++ name))
  | .missing =>
      .error (.execution
        ("failed to submit ssh command: "
          ++ "remote command exited without exit status or exit signal"))

end Received

/-- The signals that are shown by their own names. -/
def knownSignals : List String :=
  ["ABRT", "ALRM", "FPE", "HUP", "ILL", "INT", "KILL", "PIPE", "QUIT", "SEGV", "TERM", "USR1"]

/-- How the name of a signal is shown. -/
def signalText (name : String) : String :=
  if knownSignals.contains name then name else "Custom(" ++ Text.quoted name ++ ")"

end FleetOps.Ssh
