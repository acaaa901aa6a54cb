import FleetOps.Proofs.Ssh.Calls

/-! Every connection that is opened is closed once. A dial that comes to a tunnel leaves its
connection to the link, any other dial closes what it has opened; an execution closes its
connection once keys were exchanged, however it goes on.
-/

namespace FleetOps.Ssh

open Supervision
open Program (AsksOnly Answers Ends ends_ask ends_bind ends_done timeline)

-----------------------------------------------------------------------------------------
-- Requests that close nothing
-----------------------------------------------------------------------------------------

/-- Whether a request closes the connection. -/
def Request.closes : Request → Bool
  | disconnect => true
  | _ => false

/-- A procedure that leaves its connection open. -/
abbrev StaysOpen {α : Type} (procedure : Procedure α) : Prop :=
  AsksOnly (fun request => request.closes = false) procedure

/-- Trying methods closes nothing, by induction on those that are left. -/
theorem tryMethods_staysOpen (user : String) (rejected : List String)
    (methods : List LoginMethod)
    : StaysOpen (tryMethods user rejected methods) := by
  induction methods generalizing rejected with
  | nil => trivial
  | cons method rest ih =>
      refine ⟨rfl, fun answer => ?_⟩
      cases answer with
      | accepted | broken => trivial
      | rejected => exact ih (rejected ++ [method.name])

/-- A login closes nothing. -/
theorem authenticate_staysOpen (credentials : Credentials)
    : StaysOpen (authenticate credentials) := by
  have tried : StaysOpen (tryCredentials credentials) := by
    unfold tryCredentials
    split
    · trivial
    · exact tryMethods_staysOpen _ _ _
  refine tried.bind fun result => ?_
  split <;> trivial

/-- Running a command closes nothing. -/
theorem runCommand_staysOpen (command : String) : StaysOpen (runCommand command) := by
  refine ⟨rfl, fun opened => ?_⟩
  cases opened with
  | error reason => trivial
  | ok _ =>
      refine ⟨rfl, fun submitted => ?_⟩
      cases submitted with
      | error reason => trivial
      | ok _ => exact ⟨rfl, fun _ => ⟨rfl, fun _ => trivial⟩⟩

/-- How often the connection is closed. -/
def closings (requests : List Request) : Nat := requests.countP (·.closes)

section

variable {surroundings : Program.Surroundings Request Request.Answer}

/-- What closes nothing makes no closing request before it ends. -/
theorem StaysOpen.closings {α : Type} {procedure : Procedure α} (staysOpen : StaysOpen procedure)
    {history requests : List Request} {now time : Nat} {value : α}
    (ends : Ends surroundings history now procedure requests time value)
    : closings requests = 0 := by
  rw [← ends.requests]
  refine List.countP_eq_zero.mpr fun request asked => ?_
  rw [staysOpen.requests history now request asked]
  exact Bool.false_ne_true

/-- Whoever leaves closes the connection and ends with the value. -/
theorem leave_ends {α : Type} {value result : α} {history requests : List Request}
    {now time : Nat} (ends : Ends surroundings history now (leave value) requests time result)
    : requests = [.disconnect] ∧ result = value := by
  obtain ⟨_, _, _, _, last, rfl⟩ := ends_ask.mp ends
  obtain ⟨rfl, _, rfl⟩ := ends_done.mp last
  exact ⟨rfl, rfl⟩

end

-----------------------------------------------------------------------------------------
-- How the hops end
-----------------------------------------------------------------------------------------

section

variable (surroundings : Program.Surroundings Request Request.Answer)

/-- The four ways in which a dial ends, with all that is asked of the relay. -/
inductive DialEnds (relay : Relay) (credentials : Credentials) (port : UInt16)
    : List Request → Except Failure Unit → Prop
  | unreachable {delay : Nat} {reason : String}
    (failed : surroundings [] (.connect relay.host relay.port) = .after delay (.error reason))
    : DialEnds relay credentials port [.connect relay.host relay.port]
        (.error (.relayUnavailable relay.host ("Failed to connect: " ++ reason)))
  | lockedOut {delay time : Nat} {logins : List Request} {reason : String}
    (connected : surroundings [] (.connect relay.host relay.port) = .after delay (.ok ()))
    (login
      : Ends surroundings [.connect relay.host relay.port] delay (authenticate credentials) logins
          time (.error reason))
    : DialEnds relay credentials port
        (.connect relay.host relay.port :: (logins ++ [.disconnect]))
        (.error (.relayUnavailable relay.host reason))
  | refused {delay time wait : Nat} {logins : List Request} {reason : String}
    (connected : surroundings [] (.connect relay.host relay.port) = .after delay (.ok ()))
    (login
      : Ends surroundings [.connect relay.host relay.port] delay (authenticate credentials) logins
          time (.ok ()))
    (channel
      : surroundings (.connect relay.host relay.port :: logins)
          (.openTunnel tunnelHost port originAddress 0)
        = .after wait (.error reason))
    : DialEnds relay credentials port
        (.connect relay.host relay.port
          :: (logins ++ [.openTunnel tunnelHost port originAddress 0, .disconnect]))
        (.error (.targetUnavailable port reason))
  | opened {delay time wait : Nat} {logins : List Request}
    (connected : surroundings [] (.connect relay.host relay.port) = .after delay (.ok ()))
    (login
      : Ends surroundings [.connect relay.host relay.port] delay (authenticate credentials) logins
          time (.ok ()))
    (channel
      : surroundings (.connect relay.host relay.port :: logins)
          (.openTunnel tunnelHost port originAddress 0)
        = .after wait (.ok ()))
    : DialEnds relay credentials port
        (.connect relay.host relay.port
          :: (logins ++ [.openTunnel tunnelHost port originAddress 0]))
        (.ok ())

/-- The three ways in which an execution ends, with all that is asked of the node. -/
inductive ExecutionEnds (credentials : Credentials) (command : String)
    : List Request → Except Failure (List UInt8) → Prop
  | keptOut {delay : Nat} {fault : Handshake.Fault}
    (failed : surroundings [] .handshake = .after delay (.error fault))
    : ExecutionEnds credentials command [.handshake] (.error fault.failure)
  | lockedOut {delay time : Nat} {logins : List Request} {reason : String}
    (exchanged : surroundings [] .handshake = .after delay (.ok ()))
    (login
      : Ends surroundings [.handshake] delay (authenticate credentials) logins time
          (.error reason))
    : ExecutionEnds credentials command (.handshake :: (logins ++ [.disconnect]))
        (.error (Handshake.failureOfText reason))
  | ran {delay began time : Nat} {logins requests : List Request}
    {result : Except Failure (List UInt8)}
    (exchanged : surroundings [] .handshake = .after delay (.ok ()))
    (login
      : Ends surroundings [.handshake] delay (authenticate credentials) logins began (.ok ()))
    (finished
      : Ends surroundings (.handshake :: logins) began (runCommand command) requests time result)
    : ExecutionEnds credentials command (.handshake :: (logins ++ (requests ++ [.disconnect])))
        result

end

section

variable {surroundings : Program.Surroundings Request Request.Answer} {relay : Relay}
  {credentials : Credentials} {port : UInt16} {command : String} {requests : List Request}
  {time : Nat}

/-- A dial that ends does so in one of the four ways, by cases on its answers. -/
theorem openTunnel_ends {result : Except Failure Unit}
    (ends
      : Ends surroundings [] 0 (openTunnel relay credentials port) requests time result)
    : DialEnds surroundings relay credentials port requests result := by
  obtain ⟨delay, answer, rest, connected, ends, rfl⟩ := ends_ask.mp ends
  cases answer with
  | error reason =>
      obtain ⟨rfl, _, rfl⟩ := ends_done.mp ends
      exact .unreachable connected
  | ok _ =>
      rw [Nat.zero_add] at ends
      obtain ⟨logins, began, login, rest, loggedIn, ends, rfl⟩ := ends_bind.mp ends
      cases login with
      | error reason =>
          obtain ⟨rfl, rfl⟩ := leave_ends ends
          exact .lockedOut connected loggedIn
      | ok _ =>
          obtain ⟨wait, answer, rest, channel, ends, rfl⟩ := ends_ask.mp ends
          cases answer with
          | error reason =>
              obtain ⟨rfl, rfl⟩ := leave_ends ends
              exact .refused connected loggedIn channel
          | ok _ =>
              obtain ⟨rfl, _, rfl⟩ := ends_done.mp ends
              exact .opened connected loggedIn channel

/-- An execution that ends does so in one of the three ways, by cases on its answers. -/
theorem execute_ends {result : Except Failure (List UInt8)}
    (ends : Ends surroundings [] 0 (execute credentials command) requests time result)
    : ExecutionEnds surroundings credentials command requests result := by
  obtain ⟨delay, answer, rest, exchanged, ends, rfl⟩ := ends_ask.mp ends
  cases answer with
  | error fault =>
      obtain ⟨rfl, _, rfl⟩ := ends_done.mp ends
      exact .keptOut exchanged
  | ok _ =>
      rw [Nat.zero_add] at ends
      obtain ⟨logins, began, login, rest, loggedIn, ends, rfl⟩ := ends_bind.mp ends
      cases login with
      | error reason =>
          obtain ⟨rfl, rfl⟩ := leave_ends ends
          exact .lockedOut exchanged loggedIn
      | ok _ =>
          obtain ⟨asked, left, value, rest, ran, last, rfl⟩ := ends_bind.mp ends
          obtain ⟨rfl, rfl⟩ := leave_ends last
          exact .ran exchanged loggedIn ran

end

-----------------------------------------------------------------------------------------
-- What the hops close
-----------------------------------------------------------------------------------------

section

variable (surroundings : Program.Surroundings Request Request.Answer)

/-- A relay accepts the connection of a dial. -/
def Connects (relay : Relay) : Prop :=
  ∃ delay, surroundings [] (.connect relay.host relay.port) = .after delay (.ok ())

/-- A node exchanges keys. -/
def Exchanges : Prop := ∃ delay, surroundings [] .handshake = .after delay (.ok ())

/-- What a dial closes that has ended after some requests. With a tunnel its connection is open;
with a failure it is closed, once and last, if there ever was one. A failed login, a refused channel
and an open one each come to a result of their own, and no failure makes for another attempt.
-/
structure DialCloses (relay : Relay) (credentials : Credentials) (port : UInt16)
    (requests : List Request) (result : Except Failure Unit) : Prop where
  opened : result = .ok () → Connects surroundings relay ∧ closings requests = 0
  failed
    : result ≠ .ok ()
      → Connects surroundings relay
      → closings requests = 1 ∧ requests.getLast? = some .disconnect
  untouched
    : ¬ Connects surroundings relay → requests = [.connect relay.host relay.port]
  lockedOut
    : ∀ delay logins time reason,
        surroundings [] (.connect relay.host relay.port) = .after delay (.ok ())
        → Ends surroundings [.connect relay.host relay.port] delay (authenticate credentials)
            logins time (.error reason)
        → result = .error (.relayUnavailable relay.host reason)
  refused
    : ∀ delay logins time wait reason,
        surroundings [] (.connect relay.host relay.port) = .after delay (.ok ())
        → Ends surroundings [.connect relay.host relay.port] delay (authenticate credentials)
            logins time (.ok ())
        → surroundings (.connect relay.host relay.port :: logins)
              (.openTunnel tunnelHost port originAddress 0)
            = .after wait (.error reason)
        → result = .error (.targetUnavailable port reason)
  tunneled
    : ∀ delay logins time wait,
        surroundings [] (.connect relay.host relay.port) = .after delay (.ok ())
        → Ends surroundings [.connect relay.host relay.port] delay (authenticate credentials)
            logins time (.ok ())
        → surroundings (.connect relay.host relay.port :: logins)
              (.openTunnel tunnelHost port originAddress 0)
            = .after wait (.ok ())
        → result = .ok ()
  unretried : ∀ failure, result = .error failure → failure.isHandshakeEnd = false

/-- What an execution closes that has ended after some requests: its connection, once and last, if
keys were exchanged. Otherwise nothing more is asked of the node.
-/
structure ExecutionCloses (requests : List Request) : Prop where
  exchanged
    : Exchanges surroundings → closings requests = 1 ∧ requests.getLast? = some .disconnect
  untouched : ¬ Exchanges surroundings → requests = [.handshake]

end

/-- The closing requests of two parts are those of both. -/
theorem closings_append (first later : List Request)
    : closings (first ++ later) = closings first + closings later :=
  List.countP_append

/-- A request that closes nothing does not count. -/
theorem closings_cons {request : Request} (other : request.closes = false)
    (rest : List Request)
    : closings (request :: rest) = closings rest :=
  List.countP_cons_of_neg (by simp [other])

section

variable {surroundings : Program.Surroundings Request Request.Answer} {relay : Relay}
  {credentials : Credentials} {port : UInt16} {command : String} {requests : List Request}
  {time : Nat}

/-- A dial ends with one result, by cases on the answers that decide it. -/
theorem DialEnds.unique {others : List Request} {result other : Except Failure Unit}
    (first : DialEnds surroundings relay credentials port requests result)
    (second : DialEnds surroundings relay credentials port others other)
    : result = other := by
  cases first with
  | unreachable failed =>
      cases second with
      | unreachable failed' =>
          cases failed.symm.trans failed'
          rfl
      | lockedOut connected | refused connected | opened connected =>
          cases failed.symm.trans connected
  | lockedOut connected login =>
      cases second with
      | unreachable failed => cases connected.symm.trans failed
      | lockedOut connected' login' =>
          cases connected.symm.trans connected'
          cases (login.unique login').2.2
          rfl
      | refused connected' login' | opened connected' login' =>
          cases connected.symm.trans connected'
          cases (login.unique login').2.2
  | refused connected login channel =>
      cases second with
      | unreachable failed => cases connected.symm.trans failed
      | lockedOut connected' login' =>
          cases connected.symm.trans connected'
          cases (login.unique login').2.2
      | refused connected' login' channel' =>
          cases connected.symm.trans connected'
          obtain ⟨rfl, _⟩ := login.unique login'
          cases channel.symm.trans channel'
          rfl
      | opened connected' login' channel' =>
          cases connected.symm.trans connected'
          obtain ⟨rfl, _⟩ := login.unique login'
          cases channel.symm.trans channel'
  | opened connected login channel =>
      cases second with
      | unreachable failed => cases connected.symm.trans failed
      | lockedOut connected' login' =>
          cases connected.symm.trans connected'
          cases (login.unique login').2.2
      | refused connected' login' channel' =>
          cases connected.symm.trans connected'
          obtain ⟨rfl, _⟩ := login.unique login'
          cases channel.symm.trans channel'
      | opened => rfl

/-- What is asked after the connection was opened closes it as often as what follows the login. -/
theorem closings_login {opening : Request} {delay : Nat} {logins : List Request}
    {result : Except String Unit} (opens : opening.closes = false)
    (login : Ends surroundings [opening] delay (authenticate credentials) logins time result)
    (rest : List Request)
    : closings (opening :: (logins ++ rest)) = closings rest := by
  rw [closings_cons opens, closings_append, (authenticate_staysOpen credentials).closings login,
    Nat.zero_add]

/-- What is asked last of all is what is asked last after the login. -/
theorem getLast?_login {opening last : Request} {rest : List Request} (logins : List Request)
    (ends : rest.getLast? = some last)
    : (opening :: (logins ++ rest)).getLast? = some last := by
  rw [← List.cons_append, List.getLast?_append, ends]
  rfl

/-- A dial closes what it has opened unless it comes to a tunnel, by cases on how it ends. -/
theorem DialEnds.closes {result : Except Failure Unit}
    (ends : DialEnds surroundings relay credentials port requests result)
    : DialCloses surroundings relay credentials port requests result where
  opened := by
    intro opened
    subst opened
    cases ends with
    | opened connected login channel => exact ⟨⟨_, connected⟩, closings_login rfl login _⟩
  failed := by
    intro failed ⟨_, connects⟩
    cases ends with
    | unreachable refused => cases connects.symm.trans refused
    | lockedOut connected login =>
        exact ⟨closings_login rfl login _, getLast?_login _ rfl⟩
    | refused connected login channel =>
        exact ⟨closings_login rfl login _, getLast?_login _ rfl⟩
    | opened connected login channel => exact absurd rfl failed
  untouched := by
    intro never
    cases ends with
    | unreachable failed => rfl
    | lockedOut connected login => exact absurd ⟨_, connected⟩ never
    | refused connected login channel => exact absurd ⟨_, connected⟩ never
    | opened connected login channel => exact absurd ⟨_, connected⟩ never
  lockedOut _ _ _ _ connected login := ends.unique (.lockedOut connected login)
  refused _ _ _ _ _ connected login channel := ends.unique (.refused connected login channel)
  tunneled _ _ _ _ connected login channel := ends.unique (.opened connected login channel)
  unretried := by
    intro failure failed
    subst failed
    cases ends <;> rfl

/-- An execution closes its connection if there ever was one, by cases on how it ends. -/
theorem ExecutionEnds.closes {result : Except Failure (List UInt8)}
    (ends : ExecutionEnds surroundings credentials command requests result)
    : ExecutionCloses surroundings requests where
  exchanged := by
    intro ⟨_, exchanges⟩
    cases ends with
    | keptOut failed => cases exchanges.symm.trans failed
    | lockedOut exchanged login =>
        exact ⟨closings_login rfl login _, getLast?_login _ rfl⟩
    | ran exchanged login finished =>
        refine ⟨?_, ?_⟩
        · rw [closings_login rfl login, closings_append,
            (runCommand_staysOpen command).closings finished]
          rfl
        · exact getLast?_login _ List.getLast?_concat
  untouched := by
    intro never
    cases ends with
    | keptOut failed => rfl
    | lockedOut exchanged login => exact absurd ⟨_, exchanged⟩ never
    | ran exchanged login finished => exact absurd ⟨_, exchanged⟩ never

end

-----------------------------------------------------------------------------------------
-- What a run closes
-----------------------------------------------------------------------------------------

/-- Whether two sides are the same. -/
def Side.is : Side → Side → Bool
  | relay, relay => true
  | node, node => true
  | _, _ => false

/-- Whether a call closes the connection of an attempt to a side. -/
def Call.closes (side : Side) (attempt : Nat) (call : Call) : Bool :=
  call.side.is side && call.attempt == attempt && call.request.closes

/-- How often the connection of an attempt to a side is closed. -/
def closingsOf (side : Side) (attempt : Nat) (calls : List Call) : Nat :=
  calls.countP (Call.closes side attempt)

/-- Every connection of a history is closed once by some calls, if the hop that opened it came to
an end in time: the one to a relay by the dial or by the link of its tunnel, the one to a node by
the execution. What was not opened is not closed.
-/
structure EachCloses (sides : OtherSides) (deadline : Nat) (history : List Occurrence)
    (calls : List Call) : Prop where
  relay
    : ∀ number time relay credentials port delay result,
        ⟨time, .dialed number relay credentials port⟩ ∈ history
        → (sides.dialing (number - 1) relay credentials port).finish = some (delay, result)
        → time + delay < deadline
        → (Connects (sides.relay (number - 1)) relay → closingsOf .relay number calls = 1)
          ∧ (¬ Connects (sides.relay (number - 1)) relay → closingsOf .relay number calls = 0)
  node
    : ∀ number time credentials command delay result,
        ⟨time, .executed number credentials command⟩ ∈ history
        → (sides.executing (number - 1) credentials command).finish = some (delay, result)
        → time + delay < deadline
        → (Exchanges (sides.node (number - 1)) → closingsOf .node number calls = 1)
          ∧ (¬ Exchanges (sides.node (number - 1)) → closingsOf .node number calls = 0)

section

variable {sides : OtherSides} {plan : Plan} {deadline : Nat}

/-- The closing calls of two parts are those of both. -/
theorem closingsOf_append (side : Side) (attempt : Nat) (calls more : List Call)
    : closingsOf side attempt (calls ++ more)
      = closingsOf side attempt calls + closingsOf side attempt more :=
  List.countP_append

/-- Calls of other attempts close nothing of an attempt. -/
theorem closingsOf_other {attempt : Nat} {calls : List Call}
    (others : ∀ call ∈ calls, call.attempt ≠ attempt) (side : Side)
    : closingsOf side attempt calls = 0 := by
  refine List.countP_eq_zero.mpr fun call member => ?_
  simp [Call.closes, others call member]

/-- Calls of a hop close nothing at the other side. -/
theorem closingsOf_otherSide {α : Type} {attempt start : Nat} {side other : Side}
    {timeline : Program.Timeline Request α} (inOrder : timeline.InOrder 0)
    (different : side.is other = false)
    : closingsOf other attempt (callsOf deadline attempt start side timeline) = 0 := by
  refine List.countP_eq_zero.mpr fun call member => ?_
  obtain ⟨_, same, _⟩ := callsOf_mem inOrder member
  simp [Call.closes, same, different]

/-- The calls of a hop that ends in time close its connection as often as its requests do. -/
theorem closingsOf_callsOf {α : Type} {attempt start delay : Nat} {side : Side}
    {timeline : Program.Timeline Request α} {value : α} (inOrder : timeline.InOrder 0)
    (finish : timeline.finish = some (delay, value)) (inTime : start + delay < deadline)
    : closingsOf side attempt (callsOf deadline attempt start side timeline)
      = closings timeline.requests := by
  have all
      : callsOf deadline attempt start side timeline
        = timeline.asked.map fun asked => ⟨start + asked.1, attempt, side, asked.2⟩ := by
    refine List.filter_eq_self.mpr fun call member => ?_
    obtain ⟨asked, there, rfl⟩ := List.mem_map.mp member
    have last := (inOrder.finish delay value finish).2 asked there
    exact decide_eq_true (by simp only; omega)
  have same : side.is side = true := by cases side <;> rfl
  rw [all, closingsOf, closings, Program.Timeline.requests, List.countP_map, List.countP_map]
  exact List.countP_congr fun asked _ => by simp [Call.closes, same]

/-- What happens in an attempt whose tunnel is opened and closed again. -/
def tunneled (plan : Plan) (number start opened closed : Nat) : List Occurrence :=
  [
    ⟨start, .dialed number plan.relay plan.relayCredentials plan.port⟩,
    ⟨opened, .opened number⟩,
    ⟨opened, .executed number plan.nodeCredentials plan.command⟩,
    ⟨closed, .closed number⟩
  ]

/-- All that happens in an attempt. Its tunnel is not opened in time, or it is, and is closed again
whatever becomes of the execution.
-/
inductive Happens (sides : OtherSides) (plan : Plan) (deadline before start : Nat)
    : List Occurrence → Prop
  | unopened
    (without
      : ∀ delay,
          (sides.dialing before plan.relay plan.relayCredentials plan.port).finish
            = some (delay, .ok ())
          → ¬ start + delay < deadline)
    : Happens sides plan deadline before start
        [⟨start, .dialed (before + 1) plan.relay plan.relayCredentials plan.port⟩]
  | opened {delay : Nat} (closed : Nat)
    (finish
      : (sides.dialing before plan.relay plan.relayCredentials plan.port).finish
        = some (delay, .ok ()))
    (inTime : start + delay < deadline)
    : Happens sides plan deadline before start
        (tunneled plan (before + 1) start (start + delay) closed)

/-- An opened tunnel is closed when the execution ends or at the deadline, for an execution over SSH
does not die.
-/
theorem executePart_closed (plan : Plan) (deadline number opened : Nat)
    (timeline : Program.Timeline Request (Except Failure (List UInt8)))
    : ∃ closed,
        (executePart plan deadline number opened (stepOf timeline)).occurrences
          ++ (executePart plan deadline number opened (stepOf timeline)).cleanup
        = [⟨opened, .opened number⟩,
            ⟨opened, .executed number plan.nodeCredentials plan.command⟩,
            ⟨closed, .closed number⟩] := by
  unfold stepOf
  cases timeline.finish with
  | none => exact ⟨_, rfl⟩
  | some reached =>
      obtain ⟨delay, result⟩ := reached
      simp only [executePart]
      split <;> exact ⟨_, rfl⟩

/-- Whatever happens in an attempt is accounted for, by cases on how far it comes. -/
theorem attemptAt_happens (before start : Nat)
    : Happens sides plan deadline before start
        ((attemptAt sides.hops plan deadline (before + 1) before start).occurrences
          ++ (attemptAt sides.hops plan deadline (before + 1) before start).cleanup) := by
  change Happens sides plan deadline before start
    ((attempt plan deadline (before + 1) start
        (stepOf (sides.dialing before plan.relay plan.relayCredentials plan.port)) _).occurrences
      ++ (attempt plan deadline (before + 1) start
        (stepOf (sides.dialing before plan.relay plan.relayCredentials plan.port)) _).cleanup)
  cases finish : (sides.dialing before plan.relay plan.relayCredentials plan.port).finish with
  | none =>
      simp only [stepOf, finish, attempt]
      exact .unopened (by simp [finish])
  | some reached =>
      obtain ⟨delay, result⟩ := reached
      cases result with
      | error failure =>
          have unopened : Happens sides plan deadline before start
              [⟨start, .dialed (before + 1) plan.relay plan.relayCredentials plan.port⟩] :=
            .unopened (by simp [finish])
          simp only [stepOf, finish, attempt]
          split <;> exact unopened
      | ok _ =>
          simp only [stepOf, finish, attempt]
          split
          next inTime =>
            obtain ⟨closed, happens⟩ :=
              executePart_closed plan deadline (before + 1) (start + delay)
                (sides.executing before plan.nodeCredentials plan.command)
            have opened := Happens.opened closed finish inTime
            rw [tunneled, ← happens] at opened
            exact opened
          next late =>
            refine .unopened fun other same => ?_
            cases finish.symm.trans same
            exact late

section

variable {before number n start delay : Nat} {history : List Occurrence}

/-- A dial that ends in time closes its connection unless its tunnel is opened. -/
theorem closingsOf_dialCalls {result : Except Failure Unit}
    (finish
      : (sides.dialing n plan.relay plan.relayCredentials plan.port).finish
        = some (delay, result))
    (inTime : start + delay < deadline)
    : (result = .ok ()
        → Connects (sides.relay n) plan.relay
          ∧ closingsOf .relay number (sides.dialCalls plan deadline number n start) = 0)
      ∧ (result ≠ .ok ()
        → (Connects (sides.relay n) plan.relay
            → closingsOf .relay number (sides.dialCalls plan deadline number n start) = 1)
          ∧ (¬ Connects (sides.relay n) plan.relay
            → closingsOf .relay number (sides.dialCalls plan deadline number n start) = 0)) := by
  have closes := (openTunnel_ends ⟨rfl, finish⟩).closes
  have asMany
      : closingsOf .relay number (sides.dialCalls plan deadline number n start)
        = closings (sides.dialing n plan.relay plan.relayCredentials plan.port).requests :=
    closingsOf_callsOf (Program.timeline_inOrder _ _ _) finish inTime
  rw [asMany]
  refine ⟨closes.opened, fun failed => ⟨fun connects => (closes.failed failed connects).1, ?_⟩⟩
  intro never
  exact congrArg closings (closes.untouched never)

/-- An execution that ends in time closes its connection if keys were exchanged. -/
theorem closingsOf_executionCalls {result : Except Failure (List UInt8)}
    (finish
      : (sides.executing n plan.nodeCredentials plan.command).finish = some (delay, result))
    (inTime : start + delay < deadline)
    : (Exchanges (sides.node n)
        → closingsOf .node number (sides.executionCalls plan deadline number n start) = 1)
      ∧ (¬ Exchanges (sides.node n)
        → closingsOf .node number (sides.executionCalls plan deadline number n start) = 0) := by
  have closes := (execute_ends ⟨rfl, finish⟩).closes
  have asMany
      : closingsOf .node number (sides.executionCalls plan deadline number n start)
        = closings (sides.executing n plan.nodeCredentials plan.command).requests :=
    closingsOf_callsOf (Program.timeline_inOrder _ _ _) finish inTime
  rw [asMany]
  refine ⟨fun exchanges => (closes.exchanged exchanges).1, fun never => ?_⟩
  exact congrArg closings (closes.untouched never)

/-- With a tunnel the connection to the relay is closed as often as the dial does and once more, and
the one to the node as often as the execution does.
-/
theorem closingsOf_tunneled (start opened closed : Nat)
    : closingsOf .relay (before + 1)
          (sides.callsFrom deadline before before (tunneled plan (before + 1) start opened closed))
        = closingsOf .relay (before + 1)
            (sides.dialCalls plan deadline (before + 1) before start)
          + 1
      ∧ closingsOf .node (before + 1)
          (sides.callsFrom deadline before before (tunneled plan (before + 1) start opened closed))
        = closingsOf .node (before + 1)
            (sides.executionCalls plan deadline (before + 1) before opened) := by
  have calls
      : sides.callsFrom deadline before before (tunneled plan (before + 1) start opened closed)
        = sides.dialCalls plan deadline (before + 1) before start
          ++ (sides.executionCalls plan deadline (before + 1) before opened
            ++ [⟨closed, before + 1, .relay, .disconnect⟩]) := rfl
  have dial
      : closingsOf .node (before + 1) (sides.dialCalls plan deadline (before + 1) before start)
        = 0 :=
    closingsOf_otherSide (Program.timeline_inOrder _ _ _) rfl
  have execution
      : closingsOf .relay (before + 1)
          (sides.executionCalls plan deadline (before + 1) before opened)
        = 0 :=
    closingsOf_otherSide (Program.timeline_inOrder _ _ _) rfl
  rw [calls, closingsOf_append, closingsOf_append, closingsOf_append, closingsOf_append, dial,
    execution]
  simp [closingsOf, Call.closes, Side.is, Request.closes]

/-- The connections of an attempt are closed by its calls, by cases on what happens in it. -/
theorem Happens.closes (happens : Happens sides plan deadline before start history)
    : EachCloses sides deadline history (sides.callsFrom deadline before before history) where
  relay := by
    intro number time relay credentials port delay result dialed finish inTime
    cases happens with
    | unopened without =>
        obtain ⟨rfl, rfl, rfl, rfl, rfl⟩ := by simpa using dialed
        have failed : result ≠ .ok () := by
          intro opened
          subst opened
          exact without delay finish inTime
        have calls : sides.callsFrom deadline before before
            [⟨time, .dialed (before + 1) plan.relay plan.relayCredentials plan.port⟩]
            = sides.dialCalls plan deadline (before + 1) before time := List.append_nil _
        rw [calls]
        exact (closingsOf_dialCalls finish inTime).2 failed
    | opened closed opens early =>
        obtain ⟨rfl, rfl, rfl, rfl, rfl⟩ := by simpa [tunneled] using dialed
        obtain ⟨connects, none⟩ := (closingsOf_dialCalls opens early).1 rfl
        refine ⟨fun _ => ?_, fun never => absurd connects never⟩
        rw [(closingsOf_tunneled _ _ closed).1, none]
  node := by
    intro number time credentials command delay result executed finish inTime
    cases happens with
    | unopened without => simp at executed
    | opened closed opens early =>
        obtain ⟨rfl, rfl, rfl, rfl⟩ := by simpa [tunneled] using executed
        rw [(closingsOf_tunneled _ _ closed).2]
        exact closingsOf_executionCalls finish inTime

end

-----------------------------------------------------------------------------------------
-- Runs
-----------------------------------------------------------------------------------------

section

variable {before start : Nat} {history more : List Occurrence} {calls others : List Call}

/-- What a run returns opens and closes nothing. -/
theorem EachCloses.returned (closes : EachCloses sides deadline (history ++ more) calls)
    (time : Nat) (outcome : Outcome)
    : EachCloses sides deadline (history ++ ⟨time, .returned outcome⟩ :: more) calls where
  relay := by
    intro number time relay credentials port delay result dialed
    exact closes.relay number time relay credentials port delay result (by simpa using dialed)
  node := by
    intro number time credentials command delay result executed
    exact closes.node number time credentials command delay result (by simpa using executed)

/-- Histories of different attempts are closed one after the other. -/
theorem EachCloses.append (first : EachCloses sides deadline history calls)
    (second : EachCloses sides deadline more others)
    (apart
      : ∀ number ∈ dialedIn history ++ executedIn history,
          ∀ call ∈ others, call.attempt ≠ number)
    (apart'
      : ∀ number ∈ dialedIn more ++ executedIn more, ∀ call ∈ calls, call.attempt ≠ number)
    : EachCloses sides deadline (history ++ more) (calls ++ others) where
  relay := by
    intro number time relay credentials port delay result dialed finish inTime
    rw [closingsOf_append]
    rcases List.mem_append.mp dialed with here | there
    · have named : number ∈ dialedIn history := List.mem_filterMap.mpr ⟨_, here, rfl⟩
      rw [closingsOf_other (apart number (List.mem_append_left _ named)), Nat.add_zero]
      exact first.relay number time relay credentials port delay result here finish inTime
    · have named : number ∈ dialedIn more := List.mem_filterMap.mpr ⟨_, there, rfl⟩
      rw [closingsOf_other (apart' number (List.mem_append_left _ named)), Nat.zero_add]
      exact second.relay number time relay credentials port delay result there finish inTime
  node := by
    intro number time credentials command delay result executed finish inTime
    rw [closingsOf_append]
    rcases List.mem_append.mp executed with here | there
    · have named : number ∈ executedIn history := List.mem_filterMap.mpr ⟨_, here, rfl⟩
      rw [closingsOf_other (apart number (List.mem_append_right _ named)), Nat.add_zero]
      exact first.node number time credentials command delay result here finish inTime
    · have named : number ∈ executedIn more := List.mem_filterMap.mpr ⟨_, there, rfl⟩
      rw [closingsOf_other (apart' number (List.mem_append_right _ named)), Nat.zero_add]
      exact second.node number time credentials command delay result there finish inTime

/-- What a single attempt closes. -/
structure AttemptCloses (sides : OtherSides) (deadline before : Nat) (history : List Occurrence)
    : Prop where
  closes : EachCloses sides deadline history (sides.callsFrom deadline before before history)
  calls : ∀ call ∈ sides.callsFrom deadline before before history, call.attempt = before + 1
  hops : ∀ number ∈ dialedIn history ++ executedIn history, number = before + 1

/-- What an attempt and those after it close, all of which have later numbers. -/
structure ClosesFrom (sides : OtherSides) (deadline before : Nat) (history : List Occurrence)
    : Prop where
  closes : EachCloses sides deadline history (sides.callsFrom deadline before before history)
  calls : ∀ call ∈ sides.callsFrom deadline before before history, before < call.attempt
  hops : ∀ number ∈ dialedIn history ++ executedIn history, before < number

/-- An attempt closes its connections with all that happens in it, its cleanup included. -/
theorem attemptAt_closes (early : start ≤ deadline)
    : AttemptCloses sides deadline before
        ((attemptAt sides.hops plan deadline (before + 1) before start).occurrences
          ++ (attemptAt sides.hops plan deadline (before + 1) before start).cleanup) := by
  have happens := @attemptAt_happens sides plan deadline before start
  refine ⟨happens.closes, (attemptAt_frugal before early).1.numbered, ?_⟩
  generalize (attemptAt sides.hops plan deadline (before + 1) before start).occurrences
    ++ (attemptAt sides.hops plan deadline (before + 1) before start).cleanup = history at happens
  cases happens with
  | unopened => simp [Event.dialed?, Event.executed?]
  | opened => simp [tunneled, Event.dialed?, Event.executed?]

/-- A run that returns after an attempt has closed what the attempt closes. -/
theorem AttemptCloses.returned (attempt : AttemptCloses sides deadline before (history ++ more))
    (time : Nat) (outcome : Outcome)
    : ClosesFrom sides deadline before
        (history ++ ⟨time, .returned outcome⟩ :: more) where
  closes := by
    rw [OtherSides.callsFrom_returned]
    exact attempt.closes.returned time outcome
  calls := by
    rw [OtherSides.callsFrom_returned]
    intro call member
    rw [attempt.calls call member]
    exact Nat.lt_succ_self before
  hops := by
    intro number member
    rw [attempt.hops number (by simpa [Event.dialed?, Event.executed?] using member)]
    exact Nat.lt_succ_self before

/-- A run that goes on after an attempt with both hops closes what the attempt closes and what the
later ones do.
-/
theorem AttemptCloses.append (attempt : AttemptCloses sides deadline before history)
    (later : ClosesFrom sides deadline (before + 1) more)
    (dialed : dialedIn history = [before + 1]) (executed : executedIn history = [before + 1])
    : ClosesFrom sides deadline before (history ++ more) := by
  have calls
      : sides.callsFrom deadline before before (history ++ more)
        = sides.callsFrom deadline before before history
          ++ sides.callsFrom deadline (before + 1) (before + 1) more := by
    rw [OtherSides.callsFrom_append, dialed, executed]
    rfl
  refine ⟨?_, ?_, ?_⟩
  · rw [calls]
    refine attempt.closes.append later.closes ?_ ?_
    · intro number member call follows
      have own := attempt.hops number member
      have after := later.calls call follows
      omega
    · intro number member call precedes
      have after := later.hops number member
      have own := attempt.calls call precedes
      omega
  · rw [calls]
    refine List.forall_mem_append.mpr ⟨fun call member => ?_, fun call member => ?_⟩
    · rw [attempt.calls call member]
      exact Nat.lt_succ_self before
    · exact Nat.lt_of_succ_lt (later.calls call member)
  · intro number member
    have split : number = before + 1 ∨ number ∈ dialedIn more ++ executedIn more := by
      simpa [dialed, executed, or_assoc, or_left_comm] using member
    rcases split with rfl | there
    · exact Nat.lt_succ_self before
    · exact Nat.lt_of_succ_lt (later.hops number there)

/-- Every connection of a run from an attempt on is closed once, by induction over the attempts. -/
theorem runFrom_closes (left before : Nat) {start : Nat} (early : start ≤ deadline)
    : ClosesFrom sides deadline before
        (runFrom sides.hops plan deadline left (before + 1) before start).occurrences := by
  refine runFrom_induct sides.hops plan deadline
    (motive := fun _ number before start run =>
      number = before + 1 → start ≤ deadline
      → ClosesFrom sides deadline before run.occurrences)
    ?_ ?_ ?_ left (before + 1) before start rfl early
  · intro left number before start cut numbered early
    subst numbered
    exact (@attemptAt_closes sides plan deadline before start early).returned _ _
  · intro left number before start time result ended final numbered early
    subst numbered
    have attempt := @attemptAt_closes sides plan deadline before start early
    rw [((attemptAt_frugal before early).1.ended time result ended).2.1] at attempt
    exact attempt.returned _ _
  · intro left number before start time result later ended again ih numbered early
    subst numbered
    obtain ⟨frugal, _⟩ := @attemptAt_frugal sides plan deadline before start early
    obtain ⟨inTime, clean, _⟩ := frugal.ended time result ended
    have executes := (frugal.again time result ended again).2.1
    have attempt := @attemptAt_closes sides plan deadline before start early
    rw [clean, List.append_nil] at attempt
    simp only [executes, if_true] at ih
    exact attempt.append (ih trivial inTime.le) (attemptAt_dialed _ _ _ _ _ _).1
      (attemptAt_executed executes)

end

end

/-- Every connection of a run is closed once. -/
theorem run_closes (sides : OtherSides) (plan : Plan) (deadline : Nat)
    : EachCloses sides deadline (run sides.hops plan deadline).occurrences
        (sides.calls deadline (run sides.hops plan deadline)) :=
  (runFrom_closes (maxAttempts - 1) 0 (Nat.zero_le deadline)).closes

/-- Every connection that is opened is closed. However the other side answers, a dial and an
execution come to an end if it does, and have then closed what they have opened, but for the
connection of a tunnel. In a run the link of the tunnel closes that one, once as well.
-/
theorem connections_close
    : (∀ surroundings relay credentials port,
        (Answers surroundings
          → ∃ requests time result,
              Ends surroundings [] 0 (openTunnel relay credentials port) requests time result)
        ∧ ∀ requests time result,
            Ends surroundings [] 0 (openTunnel relay credentials port) requests time result
            → DialCloses surroundings relay credentials port requests result)
      ∧ (∀ surroundings credentials command,
        (Answers surroundings
          → ∃ requests time result,
              Ends surroundings [] 0 (execute credentials command) requests time result)
        ∧ ∀ requests time result,
            Ends surroundings [] 0 (execute credentials command) requests time result
            → ExecutionCloses surroundings requests)
      ∧ ∀ sides plan deadline,
          EachCloses sides deadline (run sides.hops plan deadline).occurrences
            (sides.calls deadline (run sides.hops plan deadline)) := by
  refine ⟨fun surroundings relay credentials port => ⟨fun answers => ?_, ?_⟩,
    fun surroundings credentials command => ⟨fun answers => ?_, ?_⟩, run_closes⟩
  · exact answers.finishes _ [] 0
  · intro requests time result ends
    exact (openTunnel_ends ends).closes
  · exact answers.finishes _ [] 0
  · intro requests time result ends
    exact (execute_ends ends).closes

end FleetOps.Ssh
