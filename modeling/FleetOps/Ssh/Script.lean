import FleetOps.Ssh.Connection
import FleetOps.Supervision.Run

/-! Relays and nodes whose conduct is fixed in advance, and what they get to see of the
service. They stand for the other side of the procedures when there is no network.
-/

namespace FleetOps.Ssh

/-- What a script does with a request: it accepts or rejects it, or cuts the connection. -/
inductive Conduct where
  | accepts
  | rejects
  | drops
  deriving DecidableEq

/-- What a script sees of the service. -/
inductive Sight where
  | connection
  | passwordLogin (user password : String)
  | keyLogin (user algorithm : String)
  | tunnel (host : String) (port : UInt16) (origin : String) (originPort : Nat)
  | session
  | command (command : String)

/-- Which side of the tunnel sees something. -/
inductive Side where
  | relay
  | node

/-- What a request shows to the side that gets it. -/
def Request.sight? : Request → Option Sight
  | connect _ _ => some .connection
  | login user (.password secret) => some (.passwordLogin user secret)
  | login user (.key key) => some (.keyLogin user key.algorithm)
  | openTunnel host port origin originPort => some (.tunnel host port origin originPort)
  | openSession => some .session
  | submit command => some (.command command)
  | _ => none

/-- How a script treats logins and channels. -/
structure Manners where
  password : Conduct
  key : Conduct
  channel : Conduct

namespace Manners

/-- The conduct towards a request. Only logins and channels can be refused. -/
def towards (manners : Manners) : Request → Conduct
  | .login _ (.password _) => manners.password
  | .login _ (.key _) => manners.key
  | .openTunnel _ _ _ _ => manners.channel
  | .openSession => manners.channel
  | _ => .accepts

/-- Whether the connection was cut on one of the requests. -/
def isCut (manners : Manners) (history : List Request) : Bool :=
  history.any fun request => manners.towards request == .drops

/-- What is seen of requests: all up to the one on which the connection is cut. -/
def sights (manners : Manners) : List Request → List Sight
  | [] => []
  | request :: rest =>
      request.sight?.toList
        ++ if manners.towards request == .drops then [] else sights manners rest

/-- The answer to a method of logging in. A cut looks like a rejection to the method on
which it happens, and like a broken connection to the next.
-/
def loginAnswer (manners : Manners) (history : List Request) (request : Request)
    : LoginAnswer :=
  if manners.isCut history then .broken "Channel send error"
  else
    match manners.towards request with
    | .accepts => .accepted
    | _ => .rejected

/-- The answer to the request for a channel. -/
def channelAnswer (manners : Manners) (request : Request) : Except String Unit :=
  match manners.towards request with
  | .accepts => .ok ()
  | .rejects => .error "Failed to open channel (AdministrativelyProhibited)"
  | .drops => .error "Disconnected"

end Manners

/-- What a node does after a connection through the tunnel is there. -/
inductive NodeMode where
  /-- Closes it, with or without some bytes that are no greeting. -/
  | hangsUp
  | silent
  | serves

/-- What a node sends after a command, in order. -/
inductive NodeEvent where
  | message (message : Message)
  /-- Ends the connection in good order. -/
  | disconnect
  /-- Cuts the connection, and with it everything that was sent. -/
  | drop

/-- A node with a fixed conduct. -/
structure NodeScript where
  mode : NodeMode
  manners : Manners
  events : List NodeEvent

namespace NodeScript

/-- A node that closes every connection at once. -/
def absent : NodeScript :=
  {
    mode := .hangsUp
    manners := { password := .accepts, key := .accepts, channel := .accepts }
    events := []
  }

/-- The messages up to the end of the connection, and whether it ends. -/
def stream : List NodeEvent → List Message × Bool
  | [] => ([], false)
  | .message message :: rest => (message :: (stream rest).1, (stream rest).2)
  | .disconnect :: _ => ([], true)
  | .drop :: _ => ([], true)

/-- Whether an event cuts the connection. -/
def NodeEvent.isDrop : NodeEvent → Bool
  | .drop => true
  | _ => false

/-- The messages of a command, unless the node falls silent before its end. -/
def messages (script : NodeScript) : Reply (List Message) :=
  if script.events.any NodeEvent.isDrop then .after 0 []
  else
    let (messages, ended) := stream script.events
    if ended || Received.endsWithin .missing messages then .after 0 messages else .never

/-- The answers of a node. -/
def surroundings (script : NodeScript) : Program.Surroundings Request Request.Answer :=
  fun history request =>
    match request with
    | .connect _ _ => .never
    | .handshake =>
        match script.mode with
        | .hangsUp => .after 0 (.error .disconnected)
        | .silent => .never
        | .serves => .after 0 (.ok ())
    | .login user method =>
        .after 0 (script.manners.loginAnswer history (.login user method))
    | .openTunnel host port origin originPort =>
        .after 0 (script.manners.channelAnswer (.openTunnel host port origin originPort))
    | .openSession => .after 0 (script.manners.channelAnswer .openSession)
    | .submit _ => .after 0 (.ok ())
    | .receive => script.messages
    | .closeSession => .after 0 ()
    | .disconnect => .after 0 ()

end NodeScript

/-- Whether a relay can be reached. -/
inductive Reachability where
  | unreachable
  | refuses
  | reachable

/-- A relay with a fixed conduct. -/
structure RelayScript where
  reachability : Reachability
  manners : Manners

namespace RelayScript

/-- The answers of a relay. -/
def surroundings (script : RelayScript) : Program.Surroundings Request Request.Answer :=
  fun history request =>
    match request with
    | .connect _ _ =>
        match script.reachability with
        | .unreachable => .after 0 (.error "Network is unreachable (os error 101)")
        | .refuses => .after 0 (.error "Connection refused (os error 111)")
        | .reachable => .after 0 (.ok ())
    | .handshake => .never
    | .login user method =>
        .after 0 (script.manners.loginAnswer history (.login user method))
    | .openTunnel host port origin originPort =>
        .after 0 (script.manners.channelAnswer (.openTunnel host port origin originPort))
    | .openSession => .after 0 (script.manners.channelAnswer .openSession)
    | .submit _ => .after 0 (.ok ())
    | .receive => .after 0 []
    | .closeSession => .after 0 ()
    | .disconnect => .after 0 ()

/-- What a relay sees of requests, if they reach it. -/
def sights (script : RelayScript) (requests : List Request) : List Sight :=
  match script.reachability with
  | .reachable => script.manners.sights requests
  | _ => []

end RelayScript

/-- A hop as the supervisor sees it: when it ends, and with what. -/
def stepOf {α : Type} (timeline : Program.Timeline Request (Except Failure α))
    : Supervision.Step α :=
  match timeline.finish with
  | some (time, result) => .ends time result
  | none => .hangs

/-- The other sides of all hops: for each dial and each execution, what answers it. -/
structure OtherSides where
  relay : Nat → Program.Surroundings Request Request.Answer
  node : Nat → Program.Surroundings Request Request.Answer

namespace OtherSides

/-- A dial against its other side. -/
def dialing (sides : OtherSides) (n : Nat) (relay : Relay) (credentials : Credentials)
    (port : UInt16)
    : Program.Timeline Request (Except Failure Unit) :=
  Program.timeline (sides.relay n) [] 0 (openTunnel relay credentials port)

/-- An execution against its other side. -/
def executing (sides : OtherSides) (n : Nat) (credentials : Credentials) (command : String)
    : Program.Timeline Request (Except Failure (List UInt8)) :=
  Program.timeline (sides.node n) [] 0 (execute credentials command)

/-- The hops over SSH. -/
def hops (sides : OtherSides) : Supervision.Hops :=
  {
    dial := fun n relay credentials port => stepOf (sides.dialing n relay credentials port)
    execute := fun n credentials command => stepOf (sides.executing n credentials command)
  }

end OtherSides

/-- Hops whose tunnels are there without a relay. -/
def OtherSides.directHops (sides : OtherSides) : Supervision.Hops :=
  {
    sides.hops with
    dial := fun _ _ _ _ => .ends 0 (.ok ())
  }

/-- A relay and the nodes behind its tunnels, one for each connection; when they are used up
no node is there.
-/
structure Stage where
  relay : RelayScript
  nodes : List NodeScript

namespace Stage

/-- The node of a connection. -/
def node (stage : Stage) (n : Nat) : NodeScript := stage.nodes.getD n .absent

/-- The scripts as the other sides. -/
def sides (stage : Stage) : OtherSides :=
  {
    relay := fun _ => stage.relay.surroundings
    node := fun n => (stage.node n).surroundings
  }

/-- What the scripts see of the occurrences of a run after some dials and executions. -/
def sightsFrom (stage : Stage) : (dials executions : Nat) → List Supervision.Occurrence
    → List (Side × Sight)
  | _, _, [] => []
  | dials, executions, occurrence :: rest =>
      match occurrence.event with
      | .dialed _ relay credentials port =>
          let asked := (stage.sides.dialing dials relay credentials port).asked.map (·.2)
          (stage.relay.sights asked).map (Side.relay, ·)
            ++ sightsFrom stage (dials + 1) executions rest
      | .executed _ credentials command =>
          let asked := (stage.sides.executing executions credentials command).asked.map (·.2)
          ((stage.node executions).manners.sights asked).map (Side.node, ·)
            ++ sightsFrom stage dials (executions + 1) rest
      | _ => sightsFrom stage dials executions rest

/-- What the scripts see of a run. -/
def sights (stage : Stage) (run : Supervision.Run) : List (Side × Sight) :=
  stage.sightsFrom 0 0 run.occurrences

end Stage

end FleetOps.Ssh
