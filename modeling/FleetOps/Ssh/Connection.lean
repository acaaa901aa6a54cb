import FleetOps.Credentials
import FleetOps.Failure.Handshake
import FleetOps.Fleet.Relay
import FleetOps.Program
import FleetOps.Ssh.Output

/-! What the service does over SSH: it opens a tunnel through a relay, and runs a command on
the node at the tunnel's end. Both are procedures over a few primitives, whose answers are
the other side's.
-/

namespace FleetOps.Ssh

/-- The primitives of a connection. -/
inductive Request where
  /-- Connects to a host and exchanges keys with it. -/
  | connect (host : String) (port : UInt16)
  /-- Exchanges keys over a stream that is there already. -/
  | handshake
  | login (user : String) (method : LoginMethod)
  /-- Asks for a channel to a port that the other side reaches. -/
  | openTunnel (host : String) (port : UInt16) (origin : String) (originPort : Nat)
  | openSession
  | submit (command : String)
  /-- Waits for the messages of the command until no more can matter. -/
  | receive
  | closeSession
  | disconnect

/-- What the other side makes of a method of logging in. -/
inductive LoginAnswer where
  | accepted
  | rejected
  | broken (reason : String)

/-- The answer to a primitive. -/
def Request.Answer : Request → Type
  | connect _ _ => Except String Unit
  | handshake => Except Handshake.Fault Unit
  | login _ _ => LoginAnswer
  | openTunnel _ _ _ _ => Except String Unit
  | openSession => Except String Unit
  | submit _ => Except String Unit
  | receive => List Message
  | closeSession => Unit
  | disconnect => Unit

/-- A procedure over the primitives. -/
abbrev Procedure (α : Type) := Program Request Request.Answer α

/-- The host to which a relay opens the channel of a tunnel. -/
def tunnelHost : String := "localhost"

/-- The address from which a relay is told that the channel comes. -/
def originAddress : String := "127.0.0.1"

/-- Tries the methods in order, after those whose names are given were rejected. The first
that is accepted ends the login, and so does a fault, with its own text.
-/
def tryMethods (user : String) (rejected : List String)
    : List LoginMethod → Procedure (Except String Bool)
  | [] =>
      .done (.error
        ("permission denied for " ++ user ++ " (tried "
          ++ String.intercalate ", " rejected ++ ")"))
  | method :: rest =>
      .ask (.login user method) fun answer =>
        match answer with
        | .accepted => .done (.ok true)
        | .rejected => tryMethods user (rejected ++ [method.name]) rest
        | .broken reason => .done (.error reason)

/-- Whether the methods of some credentials open the connection to the user. -/
def tryCredentials (credentials : Credentials) : Procedure (Except String Bool) :=
  match credentials.methods with
  | [] => .done (.error ("no key or password given for " ++ credentials.user))
  | methods => tryMethods credentials.user [] methods

/-- Logs in, or tells why not. -/
def authenticate (credentials : Credentials) : Procedure (Except String Unit) :=
  (tryCredentials credentials).bind fun result =>
    match result with
    | .ok true => .done (.ok ())
    | .ok false => .done (.error ("permission denied for " ++ credentials.user))
    | .error reason => .done (.error reason)

/-- Closes the connection and ends with a value. -/
def leave {α : Type} (value : α) : Procedure α :=
  .ask .disconnect fun _ => .done value

/-- Opens a tunnel through a relay to one of its ports. The connection to the relay stays
open if the tunnel does, and is closed again otherwise.
-/
def openTunnel (relay : Relay) (credentials : Credentials) (port : UInt16)
    : Procedure (Except Failure Unit) :=
  .ask (.connect relay.host relay.port) fun connected =>
    match connected with
    | .error reason =>
        .done (.error (.relayUnavailable relay.host ("Failed to connect: " ++ reason)))
    | .ok () =>
        (authenticate credentials).bind fun login =>
          match login with
          | .error reason => leave (.error (.relayUnavailable relay.host reason))
          | .ok () =>
              .ask (.openTunnel tunnelHost port originAddress 0) fun opened =>
                match opened with
                | .error reason => leave (.error (.targetUnavailable port reason))
                | .ok () => .done (.ok ())

/-- Runs a command on a channel of its own. -/
def runCommand (command : String) : Procedure (Except Failure (List UInt8)) :=
  .ask .openSession fun opened =>
    match opened with
    | .error reason =>
        .done (.error (.execution ("failed to create ssh session: " ++ reason)))
    | .ok () =>
        .ask (.submit command) fun submitted =>
          match submitted with
          | .error reason =>
              .done (.error (.execution ("failed to submit ssh command: " ++ reason)))
          | .ok () =>
              .ask .receive fun messages =>
                .ask .closeSession fun _ =>
                  .done (Received.nothing.collect messages).result

/-- Logs in to a node over an open tunnel and runs a command there. Once keys have been
exchanged the connection to the node is closed whatever happens.
-/
def execute (credentials : Credentials) (command : String)
    : Procedure (Except Failure (List UInt8)) :=
  .ask .handshake fun exchanged =>
    match exchanged with
    | .error fault => .done (.error fault.failure)
    | .ok () =>
        (authenticate credentials).bind fun login =>
          match login with
          | .error reason => leave (.error (Handshake.failureOfText reason))
          | .ok () => (runCommand command).bind leave

end FleetOps.Ssh
