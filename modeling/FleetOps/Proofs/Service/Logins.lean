import FleetOps.Proofs.Credentials
import FleetOps.Proofs.Service.CommandChecks
import FleetOps.Proofs.Service.Reachable
import FleetOps.Proofs.Supervision.Dials

/-! Where a command logs in, and with what. Whatever the run of a command comes to, the relay gets
the login of its own record and the node the login of the form, and neither gets the other's.
-/

namespace FleetOps

/-- The port of a tunnel is the one that the report names. -/
theorem Report.tunnelPort_eq_some {report : Report} {port : UInt16}
    (tunnel : report.tunnelPort = some port)
    : (port.toNat : Int) = report.remotePort ∧ 1 ≤ report.remotePort
      ∧ report.remotePort ≤ 65535 := by
  unfold tunnelPort at tunnel
  split at tunnel
  next valid =>
    cases tunnel
    simp only [Bool.and_eq_true, decide_eq_true_eq] at valid
    have small : report.remotePort.toNat < 65536 := by omega
    rw [UInt16.toNat_ofNat_of_lt' small]
    omega
  · cases tunnel

-----------------------------------------------------------------------------------------
-- Which requests run a command
-----------------------------------------------------------------------------------------

namespace Service

section

variable {context : Context} {request : Http.Request} {front : Front}

/-- Answering with an action runs no command. -/
theorem answerWith_run (front : Front) (action : Action Http.Response)
    : (answerWith front action).run = none := by
  unfold answerWith
  obtain ⟨result, later⟩ := action.perform front
  cases result <;> rfl

/-- Leaving out the body does not change what was run. -/
theorem headOnly_run (exchange : Exchange) : (headOnly exchange).run = exchange.run := by
  unfold headOnly
  split <;> rfl

/-- What reads a piece of the path runs no command if nothing after it does. -/
theorem withPiece_run {piece : List UInt8} {next : String → Exchange}
    (idle : ∀ text, (next text).run = none)
    : (withPiece front piece next).run = none := by
  unfold withPiece
  split
  · exact idle _
  · rfl

/-- A request that reads runs no command if its answer does not. -/
theorem reading_run {exchange : Exchange} (idle : exchange.run = none)
    : (reading request front exchange).run = none := by
  unfold reading
  split
  · exact idle
  · split
    · rw [headOnly_run, idle]
    · rfl

/-- What is prepared is for a node with a name, what the request asks for and the store tells. -/
theorem prepare_follows {id : String} {prepared : Prepared}
    (done : ((prepare context request id).perform front).1 = .ok prepared)
    : prepared.Follows context request (Text.trim id) front := by
  have named : (Text.trim id).isEmpty = false := by
    cases blank : (Text.trim id).isEmpty with
    | false => rfl
    | true => simp [prepare, blank] at done
  have settled := @prepare_settles context request front id named
  rw [done] at settled
  exact settled.of_ok.2

/-- What was run was prepared first. -/
theorem answerCommand_ran {id : String} {run : Supervision.Run}
    (ran : (answerCommand context request front id).run = some run)
    : ∃ prepared : Prepared,
        prepared.Follows context request (Text.trim id) front ∧ run = prepared.run context := by
  cases done : ((prepare context request id).perform front).1 with
  | error failure =>
      rw [answerCommand_of_error done] at ran
      cases ran
  | ok prepared =>
      rw [answerCommand_of_ok done] at ran
      exact ⟨prepared, prepare_follows done, (Option.some.inj ran).symm⟩

/-- No other route runs a command, by cases on the routes. -/
theorem answerRoute_idle {route : Route} (other : ∀ piece, route ≠ .command piece)
    : (answerRoute context request front route).run = none := by
  cases route with
  | nodes =>
      refine reading_run ?_
      unfold answerNodes
      cases ListQuery.ofRequest request with
      | error reason => rfl
      | ok query => exact answerWith_run front _
  | node piece =>
      rw [answerRoute]
      split
      · exact withPiece_run fun id => answerWith_run front _
      · exact reading_run (withPiece_run fun id => answerWith_run front _)
  | history piece => exact reading_run (withPiece_run fun id => answerWith_run front _)
  | command piece => exact absurd rfl (other piece)
  | servers =>
      rw [answerRoute]
      split
      · exact answerWith_run front _
      · rfl
  | report =>
      rw [answerRoute]
      split
      · exact answerWith_run front (checkIn context (request.decoded context.decoders))
      · rfl
  | measure piece =>
      rw [answerRoute]
      split
      · refine withPiece_run fun size => ?_
        cases measure request size <;> rfl
      · rfl

/-- Only a request for a command runs one, and it runs what was prepared for it. -/
theorem handle_ran {run : Supervision.Run}
    (ran : (handle context request front).run = some run)
    : ∃ (piece : List UInt8) (id : String) (prepared : Prepared),
        Route.ofPath? request.uri.path = some (.command piece)
        ∧ Route.pieceText? piece = some id
        ∧ prepared.Follows context request (Text.trim id) front
        ∧ run = prepared.run context := by
  unfold handle at ran
  cases routed : Route.ofPath? request.uri.path with
  | none =>
      rw [routed] at ran
      cases ran
  | some route =>
      simp only [routed] at ran
      by_cases wanted : ∃ piece, route = .command piece
      · obtain ⟨piece, rfl⟩ := wanted
        rw [answerRoute] at ran
        split at ran
        · cases decoded : Route.pieceText? piece with
          | none =>
              rw [withPiece, decoded] at ran
              cases ran
          | some id =>
              rw [withPiece, decoded] at ran
              obtain ⟨prepared, follows, rfl⟩ := answerCommand_ran ran
              exact ⟨piece, id, prepared, rfl, decoded, follows, rfl⟩
        · cases ran
      · have idle :=
          @answerRoute_idle context request front route fun piece same => wanted ⟨piece, same⟩
        rw [idle] at ran
        cases ran

end

-----------------------------------------------------------------------------------------
-- The logins of a run
-----------------------------------------------------------------------------------------

/-- The logins of a run for a node: at the relay of its latest report the relay's own, and at the
node what the form has.
-/
structure Logins (readKey : PrivateKey.Reader) (node : String) (form : CommandForm) (front : Front)
    (report : Report) (relay : Relay) (run : Supervision.Run)
    : Prop where
  latest : front.memory.reports.get? node = some report
  related : (Front.getRelay report.relayHost front).1 = .ok (some relay)
  port : 1 ≤ report.remotePort ∧ report.remotePort ≤ 65535
  dials
    : ∀ dial ∈ run.dialed,
        dial.relay = relay
        ∧ (dial.port.toNat : Int) = report.remotePort
        ∧ dial.credentials.MadeOf readKey relay.user relay.key relay.password
            (!Text.isBlankText relay.key) (!relay.password.isEmpty)
  executions
    : ∀ execution ∈ run.executed,
        execution.command = Text.trim form.command
        ∧ execution.credentials.MadeOf readKey (Text.trim form.user) (Text.trim form.key)
            (Text.trim form.password) (!Text.isBlankText form.key)
            (!Text.isBlankText form.password)

section

variable {context otherContext : Context} {request otherRequest : Http.Request} {node : String}
  {front otherFront : Front} {prepared other : Prepared}

/-- All dials of a run are the one of its plan. -/
theorem Prepared.dialed_eq (prepared : Prepared) (context : Context)
    : ∀ dial ∈ (prepared.run context).dialed, dial = prepared.plan.dial :=
  (Supervision.run_goesBy _ _ _).dial

/-- All executions of a run are the one of its plan. -/
theorem Prepared.executed_eq (prepared : Prepared) (context : Context)
    : ∀ execution ∈ (prepared.run context).executed, execution = prepared.plan.execution :=
  (Supervision.run_goesBy _ _ _).execution

/-- The node and the store decide what is dialed, as far as keys are read alike. -/
theorem PlanFollows.dial_eq {report otherReport : Report} {plan otherPlan : Supervision.Plan}
    {readKey : PrivateKey.Reader} (follows : PlanFollows readKey node front report plan)
    (otherwise : PlanFollows readKey node front otherReport otherPlan)
    : otherPlan.dial = plan.dial := by
  obtain ⟨-, reported, port, relay, credentials⟩ := follows
  obtain ⟨-, otherReported, otherPort, otherRelay, otherCredentials⟩ := otherwise
  obtain rfl : report = otherReport := by
    simpa [reported] using otherReported
  have samePort : plan.port = otherPlan.port := by simpa [port] using otherPort
  have sameRelay : plan.relay = otherPlan.relay := by simpa [relay] using otherRelay
  rw [← sameRelay, credentials] at otherCredentials
  unfold Supervision.Plan.dial
  rw [samePort, sameRelay, Except.ok.inj otherCredentials]

/-- The form decides what is executed, as far as keys are read alike. -/
theorem Prepared.Follows.execution_eq (follows : prepared.Follows context request node front)
    {otherNode : String}
    (otherwise : other.Follows otherContext otherRequest otherNode otherFront)
    (alike : otherContext.readKey = context.readKey)
    (same : CommandForm.ofRequest? otherRequest = CommandForm.ofRequest? request)
    : other.plan.execution = prepared.plan.execution := by
  obtain ⟨form, read, asked⟩ := follows.form
  obtain ⟨otherForm, otherRead, otherAsked⟩ := otherwise.form
  obtain rfl : form = otherForm := by simpa [same, read] using otherRead
  have credentials := otherAsked.credentials
  rw [alike, asked.credentials] at credentials
  unfold Supervision.Plan.execution
  rw [follows.nodeCredentials, follows.command, otherwise.nodeCredentials, otherwise.command,
    asked.command, otherAsked.command, Except.ok.inj credentials]

/-- The run of what was prepared has the logins that the report of the node and the form give. -/
theorem Prepared.Follows.logins (follows : prepared.Follows context request node front)
    : ∃ form,
        CommandForm.ofRequest? request = some form
        ∧ Logins context.readKey node form front prepared.report prepared.plan.relay
            (prepared.run context) := by
  obtain ⟨form, read, asked⟩ := follows.form
  obtain ⟨same, port⟩ := Report.tunnelPort_eq_some follows.plan.port
  have atRelay := Credentials.build_madeOf follows.plan.relayCredentials
  have atNode := Credentials.build_madeOf asked.credentials
  -- The form is trimmed before its fields are looked at, so what is there is what was not blank.
  rw [Text.isBlankText_trim, Text.trim_isEmpty] at atNode
  exact ⟨form, read, {
    latest := (Front.getReport_ok follows.plan.reported).symm
    related := follows.plan.relay
    port := port
    dials := by
      intro dial made
      rw [prepared.dialed_eq context dial made]
      exact ⟨rfl, same, atRelay⟩
    executions := by
      intro execution begun
      rw [prepared.executed_eq context execution begun, Supervision.Plan.execution,
        follows.nodeCredentials, follows.command]
      exact ⟨asked.command, atNode⟩
  }⟩

end

/-- Whatever a command comes to, all its attempts log in at the relay of the node with the relay's
own credentials and at the node with those of the form. Nothing of the form reaches the relay, and
nothing of the store the node: two commands for one node on one store dial alike whatever their
forms, and two with one form execute alike whatever the stores, as long as keys are read alike.
-/
theorem handle_run_logins (context : Context) (request : Http.Request) (front : Front)
    (run : Supervision.Run) (ran : (handle context request front).run = some run)
    : (∃ piece id form report relay,
        Route.ofPath? request.uri.path = some (.command piece)
        ∧ Route.pieceText? piece = some id
        ∧ CommandForm.ofRequest? request = some form
        ∧ Logins context.readKey (Text.trim id) form front report relay run
        ∧ (front.Reachable → report.id = Text.trim id ∧ relay.host = report.relayHost))
      ∧ ∀ otherContext otherRequest otherFront otherRun,
          otherContext.readKey = context.readKey
          → (handle otherContext otherRequest otherFront).run = some otherRun
          → (otherRequest.uri.path = request.uri.path
              → otherFront = front
              → ∀ dial ∈ run.dialed, ∀ otherDial ∈ otherRun.dialed, otherDial = dial)
            ∧ (CommandForm.ofRequest? otherRequest = CommandForm.ofRequest? request
              → ∀ execution ∈ run.executed, ∀ otherExecution ∈ otherRun.executed,
                  otherExecution = execution) := by
  obtain ⟨piece, id, prepared, routed, decoded, follows, rfl⟩ := handle_ran ran
  obtain ⟨form, read, logins⟩ := follows.logins
  constructor
  · refine ⟨piece, id, form, _, _, routed, decoded, read, logins, fun reachable => ?_⟩
    have named := reachable.named
    exact ⟨named.filed.reports _ _ logins.latest, named.getRelay logins.related⟩
  · intro otherContext otherRequest otherFront otherRun alike otherRan
    obtain ⟨otherPiece, otherId, other, otherRouted, otherDecoded, otherwise, rfl⟩ :=
      handle_ran otherRan
    refine ⟨?dials, ?executions⟩
    case dials =>
      -- One path names one node, and one store has one way there.
      rintro path rfl dial made otherDial otherMade
      obtain rfl : piece = otherPiece := by simpa [path, routed] using otherRouted
      obtain rfl : id = otherId := by simpa [decoded] using otherDecoded
      rw [prepared.dialed_eq context dial made, other.dialed_eq otherContext otherDial otherMade]
      exact follows.plan.dial_eq (alike ▸ otherwise.plan)
    case executions =>
      intro same execution begun otherExecution otherBegun
      rw [prepared.executed_eq context execution begun,
        other.executed_eq otherContext otherExecution otherBegun]
      exact follows.execution_eq otherwise alike same

/-- Hops on which the first handshake with the node is cut short. -/
def shakyContext : Context :=
  { openContext with
    hops :=
      { openContext.hops with
        execute := fun before _ _ =>
          .ends 10 (if before == 0 then .error .handshakeEnded else .ok (Utf8.encode "up 3 days")) } }

/-- Both attempts of a command log in at the relay and at the node. -/
theorem uptime_logins
    : ∃ run,
        (handle shakyContext uptimeRequest oneNodeStore).run = some run
        ∧ run.dialed.length = 2
        ∧ run.executed.length = 2
        ∧ ∃ form report relay,
            Logins PrivateKey.decode? "n1" form oneNodeStore report relay run
            ∧ report.id = "n1"
            ∧ relay.host = report.relayHost := by
  have counts : (handle shakyContext uptimeRequest oneNodeStore).run.map
      (fun run => (run.dialed.length, run.executed.length)) = some (2, 2) := by decide +kernel
  obtain ⟨run, ran, counted⟩ := Option.map_eq_some_iff.mp counts
  obtain ⟨dialed, executed⟩ := Prod.mk.inj counted
  obtain ⟨⟨piece, id, form, report, relay, routed, decoded, -, logins, named⟩, -⟩ :=
    handle_run_logins shakyContext uptimeRequest oneNodeStore run ran
  obtain rfl : piece = Utf8.encode "n1" := by
    have same : Route.ofPath? uptimeRequest.uri.path = some (.command (Utf8.encode "n1")) := rfl
    simpa [same] using routed.symm
  have trimmed : Text.trim id = "n1" := by
    have same : (Route.pieceText? (Utf8.encode "n1")).map Text.trim = some "n1" := by decide +kernel
    simpa [decoded] using same
  rw [trimmed] at logins named
  have reachable : oneNodeStore.Reachable := .plain (.seed .empty _)
  exact ⟨run, ran, dialed, executed, form, report, relay, logins, named reachable⟩

end Service

end FleetOps
