import FleetOps.Proofs.Failure.Handshake
import FleetOps.Proofs.Ssh.Connection
import FleetOps.Proofs.Supervision.Scripts

/-! A login with a node that fails for lack of a method that the node accepts. It is reported as
it is, but for one case: without any method the text of the failure ends in the name of the user,
and if that reads like a closed stream then the failure is taken for one.
-/

namespace FleetOps.Ssh

open Program (timeline timeline_bind Timeline)
open Handshake (tellsOfEnd failureOfText)
open Supervision

-----------------------------------------------------------------------------------------
-- The text of a refusal
-----------------------------------------------------------------------------------------

/-- What a login tells when there is no method to try, or each one was rejected. -/
def refusal (credentials : Credentials) : String :=
  match credentials.methods with
  | [] => "no key or password given for " ++ credentials.user
  | _ :: _ =>
      "permission denied for " ++ credentials.user ++ " (tried "
        ++ String.intercalate ", " credentials.methodNames ++ ")"

/-- Whether a refusal reads like a closed stream: no method is there to be tried, and the name
of the user alone reads so.
-/
def Mistakable (credentials : Credentials) : Prop :=
  credentials.methods = [] ∧ tellsOfEnd credentials.user = true

instance (credentials : Credentials) : Decidable (Mistakable credentials) :=
  decidable_of_iff
    (credentials.methods.isEmpty = true ∧ tellsOfEnd credentials.user = true)
    (and_congr_left fun _ => List.isEmpty_iff)

/-- A refusal tells of a closed stream only if it is mistakable. Witness: with methods it ends
in a bracket, and without any the name of the user stands alone at its end.
-/
theorem tellsOfEnd_refusal (credentials : Credentials)
    : tellsOfEnd (refusal credentials) = true ↔ Mistakable credentials := by
  simp only [refusal, Mistakable]
  cases credentials.methods with
  | nil =>
      have same : tellsOfEnd ("no key or password given for " ++ credentials.user)
          = tellsOfEnd credentials.user := by
        refine Handshake.tellsOfEnd_append (s := "no key or password given for".toList) (c := ' ')
          ?_ ?_ ?_ ?_ ?_ credentials.user <;> decide +kernel
      simp [same]
  | cons method rest =>
      have silent : ∀ text, tellsOfEnd (text ++ ")") = false := fun text =>
        Handshake.tellsOfEnd_concat (String.toList_append) (by decide) (by decide)
          (by decide +kernel) (by decide)
      simp [silent]

-----------------------------------------------------------------------------------------
-- The refused login
-----------------------------------------------------------------------------------------

/-- A node that exchanges keys, rejects every method of some credentials as it is tried, and
lets the connection be closed after that.
-/
structure Refuses (node : Program.Surroundings Request Request.Answer) (credentials : Credentials)
    : Prop where
  exchanges : ∃ delay, node [] .handshake = .after delay (.ok ())
  rejects
    : ∀ before method after,
        credentials.methods = before ++ method :: after
        → ∃ delay,
            node (.handshake :: before.map (Request.login credentials.user ·))
                (.login credentials.user method)
              = .after delay .rejected
  leaves
    : ∃ delay,
        node (.handshake :: credentials.methods.map (Request.login credentials.user ·))
            .disconnect
          = .after delay ()

variable {node : Program.Surroundings Request Request.Answer}

/-- A procedure that has asked some requests and then ended with a value. -/
def EndsWith {α : Type} (timeline : Timeline Request α) (requests : List Request) (value : α)
    : Prop :=
  timeline.requests = requests ∧ ∃ time, timeline.finish = some (time, value)

/-- Methods that are all rejected are all tried, and named in the end, by induction on them. -/
theorem tryMethods_rejected (user : String) (methods : List LoginMethod)
    (history : List Request) (now : Nat) (rejected : List String)
    (rejects
      : ∀ before method after,
          methods = before ++ method :: after
          → ∃ delay,
              node (history ++ before.map (Request.login user ·)) (.login user method)
                = .after delay .rejected)
    : EndsWith (timeline node history now (tryMethods user rejected methods))
        (methods.map (Request.login user ·))
        (.error
          ("permission denied for " ++ user ++ " (tried "
            ++ String.intercalate ", " (rejected ++ methods.map (·.name)) ++ ")")) := by
  induction methods generalizing history now rejected with
  | nil => exact ⟨rfl, now, by simp [tryMethods, timeline]⟩
  | cons method rest ih =>
      obtain ⟨delay, answered⟩ := rejects [] method rest rfl
      rw [List.map_nil, List.append_nil] at answered
      obtain ⟨requests, time, finish⟩ :=
        ih (history ++ [.login user method]) (now + delay) (rejected ++ [method.name])
          fun before other after same => by
            simpa using rejects (method :: before) other after (congrArg (method :: ·) same)
      refine ⟨?_, time, ?_⟩
      · simpa [tryMethods, timeline, answered, Timeline.requests] using requests
      · simpa [tryMethods, timeline, answered] using finish

/-- What ends is gone on with when it has ended. -/
theorem EndsWith.bind {α β : Type} {program : Procedure α} {next : α → Procedure β}
    {history requests more : List Request} {now : Nat} {value : α} {result : β}
    (first : EndsWith (timeline node history now program) requests value)
    (rest
      : ∀ time, EndsWith (timeline node (history ++ requests) time (next value)) more result)
    : EndsWith (timeline node history now (program.bind next)) (requests ++ more) result := by
  obtain ⟨asked, time, finish⟩ := first
  obtain ⟨others, last, ended⟩ := rest time
  rw [timeline_bind]
  refine ⟨?_, last, ?_⟩
  · simp only [Timeline.andThen, finish, Timeline.requests, List.map_append] at asked others ⊢
    rw [asked, others]
  · simpa only [Timeline.andThen, finish, asked] using ended

/-- A login that is refused tries every method and ends with the refusal. -/
theorem Refuses.authenticate {credentials : Credentials} (h : Refuses node credentials)
    (now : Nat)
    : EndsWith (timeline node [.handshake] now (authenticate credentials))
        (credentials.methods.map (Request.login credentials.user ·))
        (.error (refusal credentials)) := by
  have tried : EndsWith (timeline node [.handshake] now (tryCredentials credentials))
      (credentials.methods.map (Request.login credentials.user ·))
      (.error (refusal credentials)) := by
    have rejects := h.rejects
    simp only [tryCredentials, refusal, Credentials.methodNames]
    cases methods : credentials.methods with
    | nil => exact ⟨rfl, now, rfl⟩
    | cons method rest =>
        rw [methods] at rejects
        exact tryMethods_rejected credentials.user (method :: rest) [.handshake] now [] rejects
  rw [Ssh.authenticate, ← List.append_nil (List.map _ _)]
  exact tried.bind fun time => ⟨rfl, time, rfl⟩

/-- An execution whose login is refused tries every method, closes the connection and ends with
the failure that the refusal amounts to.
-/
theorem Refuses.execute {credentials : Credentials} (h : Refuses node credentials)
    (command : String)
    : ∃ time,
        (timeline node [] 0 (execute credentials command)).finish
          = some (time, .error (failureOfText (refusal credentials))) := by
  obtain ⟨delay, answered⟩ := h.exchanges
  obtain ⟨parting, left⟩ := h.leaves
  have leaves : ∀ time,
      EndsWith
        (timeline node
          ([.handshake] ++ credentials.methods.map (Request.login credentials.user ·)) time
          (leave (.error (failureOfText (refusal credentials)))))
        [.disconnect]
        (.error (failureOfText (refusal credentials))
          : Except Failure (List UInt8)) := by
    intro time
    simp only [leave, timeline, List.singleton_append, left]
    exact ⟨rfl, time + parting, rfl⟩
  simp only [Ssh.execute, timeline, answered]
  exact ((h.authenticate (0 + delay)).bind leaves).2

-----------------------------------------------------------------------------------------
-- The run
-----------------------------------------------------------------------------------------

/-- The text of a refusal is taken for a closed handshake exactly if the credentials are mistakable.
-/
theorem failureOfText_refusal (credentials : Credentials)
    : failureOfText (refusal credentials)
      = if Mistakable credentials then .handshakeEnded else .handshake (refusal credentials) := by
  simp only [failureOfText, tellsOfEnd_refusal]

variable {sides : OtherSides} {plan : Plan}

/-- An execution whose login is refused fails with the refusal, or as a handshake end if the
refusal is mistakable.
-/
theorem executing_refused {n : Nat} (refuses : Refuses (sides.node n) plan.nodeCredentials)
    : ∃ time,
        (sides.executing n plan.nodeCredentials plan.command).finish
          = some
              (time, .error
                (if Mistakable plan.nodeCredentials then .handshakeEnded
                  else .handshake (refusal plan.nodeCredentials))) := by
  rw [← failureOfText_refusal]
  exact refuses.execute plan.command

/-- An attempt whose tunnel is opened ends with its execution, when both have taken their time. -/
theorem course_one {opened time : Nat} {result : Except Failure (List UInt8)}
    (dialed
      : (sides.dialing 0 plan.relay plan.relayCredentials plan.port).finish
        = some (opened, .ok ()))
    (finish : (sides.executing 0 plan.nodeCredentials plan.command).finish = some (time, result))
    : Script.course sides.hops plan 1 = .ends (opened + time) result := by
  simp [Script.course, Script.dial, Script.tunnels, OtherSides.hops, stepOf, dialed, finish,
    Step.delayed]

/-- A relay that lets everyone in, and nodes behind it that accept no password. -/
def refusingStage : Stage :=
  {
    relay :=
      {
        reachability := .reachable
        manners := { password := .accepts, key := .accepts, channel := .accepts }
      }
    nodes :=
      [{
        mode := .serves
        manners := { password := .rejects, key := .rejects, channel := .accepts }
        events := []
      }]
  }

/-- A plan that logs in to its node with the given credentials. -/
def planWith (credentials : Credentials) : Plan :=
  {
    node := "node"
    relay := { host := "relay", port := 22, user := "fleet", key := "", password := "secret" }
    relayCredentials := { user := "fleet", methods := [.password "secret"] }
    port := 2200
    nodeCredentials := credentials
    command := "uptime"
  }

/-- Each execution whose login is refused fails with just that, and a run whose first attempt
ends so in time makes no other dial and reports it; all of this unless the refusal is mistakable.
Then the failure is a handshake end, and the run dials again.
-/
theorem refused_iff_not_mistakable (sides : OtherSides) (plan : Plan) (deadline : Nat)
    : (∀ n,
        Refuses (sides.node n) plan.nodeCredentials
        → ∃ time,
            (sides.executing n plan.nodeCredentials plan.command).finish
              = some
                  (time, .error
                    (if Mistakable plan.nodeCredentials then .handshakeEnded
                      else .handshake (refusal plan.nodeCredentials))))
      ∧ ∀ opened,
          (sides.dialing 0 plan.relay plan.relayCredentials plan.port).finish
            = some (opened, .ok ())
          → Refuses (sides.node 0) plan.nodeCredentials
          → (∀ time result,
            (sides.executing 0 plan.nodeCredentials plan.command).finish = some (time, result)
            → opened + time < deadline)
          → ((run sides.hops plan deadline).dials = 1 ↔ ¬ Mistakable plan.nodeCredentials)
            ∧ (¬ Mistakable plan.nodeCredentials
              → (run sides.hops plan deadline).outcome
                = .failed (.handshake (refusal plan.nodeCredentials))) := by
  refine ⟨fun n refuses => executing_refused refuses, fun opened dialed refuses inTime => ?_⟩
  obtain ⟨time, finish⟩ := executing_refused refuses
  obtain ⟨again, settles⟩ := run_firstFails (course_one dialed finish) (inTime time _ finish)
  by_cases mistakable : Mistakable plan.nodeCredentials
  · have more := again (by simp [mistakable, Failure.isHandshakeEnd])
    refine ⟨⟨fun one => ?_, fun other => absurd mistakable other⟩, fun other => ?_⟩
    · omega
    · exact absurd mistakable other
  · obtain ⟨one, outcome⟩ := settles (by simp [mistakable, Failure.isHandshakeEnd])
    rw [if_neg mistakable] at outcome
    exact ⟨⟨fun _ => mistakable, fun _ => one⟩, fun _ => outcome⟩

/-- A login without any method is reported for one user, and tried again for a user whose name
reads like a closed stream; a rejected password is reported for that user as well.
-/
theorem refused_as_user
    : (run refusingStage.sides.hops (planWith ⟨"root", []⟩) 1000).dials = 1
      ∧ (run refusingStage.sides.hops (planWith ⟨"eof", []⟩) 1000).dials ≠ 1
      ∧ (run refusingStage.sides.hops (planWith ⟨"eof", [.password "wrong"]⟩) 1000).dials
        = 1 := by
  have without : ∀ user, Refuses (refusingStage.sides.node 0) ⟨user, []⟩ := by
    intro user
    refine ⟨⟨0, rfl⟩, fun before method after none => ?_, ⟨0, rfl⟩⟩
    simp at none
  have wrong : Refuses (refusingStage.sides.node 0) ⟨"eof", [.password "wrong"]⟩ := by
    refine ⟨⟨0, rfl⟩, fun before method after single => ?_, ⟨0, rfl⟩⟩
    cases before with
    | nil =>
        cases single
        exact ⟨0, rfl⟩
    | cons head rest => simp at single
  -- Everything on that stage happens at once.
  have atOnce : ∀ user time result,
      (refusingStage.sides.executing 0 ⟨user, []⟩ "uptime").finish = some (time, result)
      → 0 + time < 1000 := by
    rintro user _ _ ⟨⟩
    decide
  have wrongAtOnce : ∀ time result,
      (refusingStage.sides.executing 0 ⟨"eof", [.password "wrong"]⟩ "uptime").finish
        = some (time, result)
      → 0 + time < 1000 := by
    rintro _ _ ⟨⟩
    decide
  obtain ⟨root, _⟩ :=
    (refused_iff_not_mistakable refusingStage.sides (planWith ⟨"root", []⟩) 1000).2 0 rfl
      (without "root") (atOnce "root")
  obtain ⟨eof, _⟩ :=
    (refused_iff_not_mistakable refusingStage.sides (planWith ⟨"eof", []⟩) 1000).2 0 rfl
      (without "eof") (atOnce "eof")
  obtain ⟨password, _⟩ :=
    (refused_iff_not_mistakable refusingStage.sides
      (planWith ⟨"eof", [.password "wrong"]⟩) 1000).2 0 rfl wrong wrongAtOnce
  refine ⟨root.mpr ?_, fun one => eof.mp one ?_, password.mpr ?_⟩
  · decide +kernel
  · decide +kernel
  · rintro ⟨⟨⟩, _⟩

end FleetOps.Ssh
