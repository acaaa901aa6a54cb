import FleetOps.Proofs.Program
import FleetOps.Ssh.Calls

/-! What the two hops ask for over SSH, whatever they are answered. A command is submitted once
at most, and from then on its connection is only wound down. A handshake end is the result of a
key exchange or a login with the node, and of nothing else.
-/

namespace FleetOps.Ssh

open Program (Keeps timeline timeline_bind_finish)
open Supervision (isHandshakeEnd)

-----------------------------------------------------------------------------------------
-- Protocols
-----------------------------------------------------------------------------------------

/-- The protocol in which nothing is submitted. -/
def submitsNothing : Unit → Request → Option Unit
  | (), request => if request.submits then none else some ()

/-- The protocol in which one command may be submitted, and its connection is wound down after
that.
-/
def submitsOnce (command : String) : (submitted : Bool) → Request → Option Bool
  | false, .submit other => if other = command then some true else none
  | false, _ => some false
  | true, request => if request.windsDown then some true else none

/-- A login asks for nothing but methods of logging in, by induction on those that are left. -/
theorem tryMethods_keeps {σ : Type} {step : σ → Request → Option σ} {state : σ} (user : String)
    (login : ∀ method, step state (.login user method) = some state) (rejected : List String)
    (methods : List LoginMethod)
    : Keeps step (fun later _ => later = state) state (tryMethods user rejected methods) := by
  induction methods generalizing rejected with
  | nil => rfl
  | cons method rest ih =>
      refine ⟨state, login method, fun answer => ?_⟩
      cases answer with
      | accepted | broken => rfl
      | rejected => exact ih (rejected ++ [method.name])

/-- A login asks for nothing but methods of logging in, whichever of them it tries. -/
theorem authenticate_keeps {σ : Type} {step : σ → Request → Option σ} {state : σ}
    {credentials : Credentials}
    (login : ∀ method, step state (.login credentials.user method) = some state)
    : Keeps step (fun later _ => later = state) state (authenticate credentials) := by
  have tried
      : Keeps step (fun later _ => later = state) state (tryCredentials credentials) := by
    simp only [tryCredentials]
    split
    · rfl
    · exact tryMethods_keeps credentials.user login [] _
  refine tried.bind fun later result same => ?_
  split <;> exact same

/-- A dial submits nothing, and no failure of it is a handshake end. -/
theorem openTunnel_keeps (relay : Relay) (credentials : Credentials) (port : UInt16)
    : Keeps submitsNothing
        (fun _ value => ∀ failure, value = .error failure → failure.isHandshakeEnd = false) ()
        (openTunnel relay credentials port) := by
  refine ⟨(), rfl, fun connected => ?_⟩
  cases connected with
  | error reason =>
      rintro _ ⟨⟩
      rfl
  | ok _ =>
      refine (authenticate_keeps fun _ => rfl).bind fun _ login _ => ?_
      cases login with
      | error reason =>
          refine ⟨(), rfl, fun _ => ?_⟩
          rintro _ ⟨⟩
          rfl
      | ok _ =>
          refine ⟨(), rfl, fun opened => ?_⟩
          cases opened with
          | error reason =>
              refine ⟨(), rfl, fun _ => ?_⟩
              rintro _ ⟨⟩
              rfl
          | ok _ => rintro _ ⟨⟩

/-- What is received from a command is never a closed handshake. -/
theorem Received.result_isHandshakeEnd (received : Received)
    : isHandshakeEnd received.result = false := by
  simp only [Received.result]
  split <;> rfl

/-- A command is submitted once, and whatever comes of it is no handshake end. -/
theorem runCommand_keeps (command : String)
    : Keeps (submitsOnce command) (fun _ value => isHandshakeEnd value = false) false
        (runCommand command) := by
  refine ⟨false, rfl, fun opened => ?_⟩
  cases opened with
  | error reason => rfl
  | ok _ =>
      refine ⟨true, by simp [submitsOnce], fun submitted => ?_⟩
      cases submitted with
      | error reason => rfl
      | ok _ =>
          refine ⟨true, rfl, fun messages => ⟨true, rfl, fun _ => ?_⟩⟩
          exact Received.result_isHandshakeEnd _

/-- Running a command and leaving submits it once, and is never a closed handshake. -/
theorem runCommand_leave_keeps (command : String)
    : Keeps (submitsOnce command) (fun _ value => isHandshakeEnd value = false) false
        ((runCommand command).bind leave) := by
  refine (runCommand_keeps command).bind fun submitted value other => ?_
  refine ⟨submitted, ?_, fun _ => other⟩
  cases submitted <;> rfl

/-- An execution submits its command once at most, and once it has, it does not end as a
handshake end.
-/
theorem execute_keeps (credentials : Credentials) (command : String)
    : Keeps (submitsOnce command)
        (fun submitted value => submitted = true → isHandshakeEnd value = false) false
        (execute credentials command) := by
  refine ⟨false, rfl, fun exchanged => ?_⟩
  cases exchanged with
  | error fault => rintro ⟨⟩
  | ok _ =>
      refine (authenticate_keeps fun _ => rfl).bind fun later login same => ?_
      subst same
      cases login with
      | error reason => exact ⟨false, rfl, fun _ => by rintro ⟨⟩⟩
      | ok _ =>
          exact (runCommand_leave_keeps command).mono fun _ _ other _ => other

-----------------------------------------------------------------------------------------
-- What follows from the protocols
-----------------------------------------------------------------------------------------

/-- A protocol in which nothing is submitted has no request that submits. -/
theorem submitsNothing_requests {requests : List Request}
    (follows : requests.foldlM submitsNothing () = some ())
    : ∀ request ∈ requests, request.submits = false := by
  induction requests with
  | nil => simp
  | cons request rest ih =>
      cases submits : request.submits with
      | true => simp [submitsNothing, submits] at follows
      | false =>
          refine List.forall_mem_cons.mpr ⟨submits, ih ?_⟩
          simpa [submitsNothing, submits] using follows

/-- Once a command has been submitted there is nothing left but to wind down. -/
theorem submitsOnce_windsDown {command : String} {requests : List Request} {last : Bool}
    (follows : requests.foldlM (submitsOnce command) true = some last)
    : last = true ∧ ∀ request ∈ requests, request.windsDown = true := by
  induction requests with
  | nil =>
      cases follows
      simp
  | cons request rest ih =>
      cases windsDown : request.windsDown with
      | false => simp [submitsOnce, windsDown] at follows
      | true =>
          obtain ⟨same, all⟩ := ih (by simpa [submitsOnce, windsDown] using follows)
          exact ⟨same, List.forall_mem_cons.mpr ⟨windsDown, all⟩⟩

/-- In the protocol of one command, only that command is submitted, nothing but winding down
comes after it, and it shows in the end whether it has been.
-/
theorem submitsOnce_requests {command : String} {requests : List Request} {last : Bool}
    (follows : requests.foldlM (submitsOnce command) false = some last)
    : (requests.Pairwise fun earlier later => earlier.submits = true → later.windsDown = true)
      ∧ (∀ request ∈ requests,
        request.submits = true → request = .submit command ∧ last = true) := by
  induction requests with
  | nil => simp
  | cons request rest ih =>
      cases submits : request.submits with
      | false =>
          have stays : submitsOnce command false request = some false := by
            cases request <;> first | rfl | contradiction
          obtain ⟨once, own⟩ := ih (by simpa [stays] using follows)
          refine ⟨List.pairwise_cons.mpr ⟨by simp [submits], once⟩, ?_⟩
          exact List.forall_mem_cons.mpr ⟨by simp [submits], own⟩
      | true =>
          cases request with
          | submit other =>
              by_cases same : other = command
              · obtain ⟨reached, down⟩ :=
                  submitsOnce_windsDown (by simpa [submitsOnce, same] using follows)
                subst same
                refine ⟨List.pairwise_cons.mpr ⟨fun later member _ => down later member, ?_⟩, ?_⟩
                · exact List.pairwise_of_forall_mem_list
                    fun _ _ later member _ => down later member
                · refine List.forall_mem_cons.mpr ⟨fun _ => ⟨rfl, reached⟩, ?_⟩
                  intro later member again
                  rw [Request.submits_of_windsDown (down later member)] at again
                  contradiction
              · simp [submitsOnce, same] at follows
          | _ => contradiction

-----------------------------------------------------------------------------------------
-- The two hops
-----------------------------------------------------------------------------------------

variable {surroundings : Program.Surroundings Request Request.Answer}

/-- Opening a tunnel submits nothing. -/
theorem openTunnel_submits (relay : Relay) (credentials : Credentials) (port : UInt16)
    : ∀ request ∈ (timeline surroundings [] 0 (openTunnel relay credentials port)).requests,
        request.submits = false := by
  obtain ⟨_, follows, _⟩ := (openTunnel_keeps relay credentials port).timeline [] 0
  exact submitsNothing_requests follows

/-- No failure to open a tunnel is a closed handshake. -/
theorem openTunnel_isHandshakeEnd {relay : Relay} {credentials : Credentials} {port : UInt16}
    {time : Nat} {failure : Failure}
    (finish
      : (timeline surroundings [] 0 (openTunnel relay credentials port)).finish
        = some (time, .error failure))
    : failure.isHandshakeEnd = false := by
  obtain ⟨_, _, ends⟩ := (openTunnel_keeps relay credentials port).timeline [] 0
  exact ends time _ finish failure rfl

/-- However a node answers, an execution submits nothing but its command, nothing but winding
down comes after that, and then it does not end as a handshake end.
-/
theorem execute_submits (credentials : Credentials) (command : String)
    : ((timeline surroundings [] 0 (execute credentials command)).requests.Pairwise
        fun earlier later => earlier.submits = true → later.windsDown = true)
      ∧ ∀ request ∈ (timeline surroundings [] 0 (execute credentials command)).requests,
          request.submits = true
          → request = .submit command
            ∧ ∀ time result,
                (timeline surroundings [] 0 (execute credentials command)).finish
                  = some (time, result)
                → isHandshakeEnd result = false := by
  obtain ⟨last, follows, ends⟩ := (execute_keeps credentials command).timeline [] 0
  obtain ⟨once, own⟩ := submitsOnce_requests follows
  refine ⟨once, fun request member submits => ?_⟩
  obtain ⟨same, reached⟩ := own request member submits
  exact ⟨same, fun time result finish => ends time result finish reached⟩

/-- An execution that ends as a handshake end has been kept out by its node, for the command
itself never ends so.
-/
theorem execute_keepsOut {credentials : Credentials} {command : String} {time : Nat}
    {result : Except Failure (List UInt8)}
    (finish
      : (timeline surroundings [] 0 (execute credentials command)).finish
        = some (time, result))
    (ended : isHandshakeEnd result = true)
    : KeepsOut surroundings credentials := by
  simp only [execute, timeline] at finish
  cases answered : surroundings [] .handshake with
  | never => simp [answered] at finish
  | after delay answer =>
      cases answer with
      | error fault => exact .keyExchange answered
      | ok _ =>
          simp only [answered, Nat.zero_add, List.nil_append] at finish
          obtain ⟨began, login, loggedIn, finish⟩ := timeline_bind_finish finish
          cases login with
          | error reason => exact .login answered loggedIn
          | ok _ =>
              obtain ⟨_, _, ends⟩ := (runCommand_leave_keeps command).timeline _ began
              rw [ends time result finish] at ended
              contradiction

end FleetOps.Ssh
