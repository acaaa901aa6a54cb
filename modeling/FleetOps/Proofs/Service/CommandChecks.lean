import FleetOps.Proofs.Service.Action
import FleetOps.Proofs.Store.Alike
import FleetOps.Proofs.Store.Relays
import FleetOps.Store.Seed
import FleetOps.Service.Router

/-! What a request for a command is answered with. Each check is told by itself, from the request
and from the store as the request finds it; the first one that fails answers, and only if none does
the command is run.
-/

namespace FleetOps.Service

-----------------------------------------------------------------------------------------
-- Who is calling
-----------------------------------------------------------------------------------------

/-- Whether the request presents an administrator's key. -/
def presentsAdminKey (request : Http.Request) (front : Front) : Except StoreFault Bool :=
  match presentedKey request with
  | some key => (Front.validateKey key true front).1
  | none => .ok false

/-- The user that the session of the request's cookie has logged in. -/
def userLoggedIn (request : Http.Request) (now : Int) (front : Front)
    : Except StoreFault (Option String) :=
  match Http.Cookie.find? request sessionCookie with
  | some id =>
      if id.isEmpty then .ok none
      else (Front.getSession id front).1.map fun session =>
        (session.filter (·.isLoggedIn now)).map (·.user)
  | none => .ok none

/-- The caller if it is a browser. Whether a key was sent decides between two failures. -/
def browserOf (request : Http.Request) (now : Int) (front : Front) : Except Failure Caller :=
  match userLoggedIn request now front with
  | .error fault => .error (.storage fault)
  | .ok (some user) => .ok (.browser user)
  | .ok none => .error (if (presentedKey request).isSome then .unauthorized else .forbidden)

/-- The caller: a program if there is an administrator's key, else a browser. -/
def callerOf (request : Http.Request) (now : Int) (front : Front) : Except Failure Caller :=
  match presentsAdminKey request front with
  | .error fault => .error (.storage fault)
  | .ok true => .ok .program
  | .ok false => browserOf request now front

-----------------------------------------------------------------------------------------
-- The checks
-----------------------------------------------------------------------------------------

/-- The text is meant as a key and is none. -/
def isBadKey (readKey : PrivateKey.Reader) (text : String) : Bool :=
  !Text.isBlankText text && (readKey text).isNone

/-- The failure of looking for something: the store's own, or that there is nothing. -/
def lookupFailure? {α : Type} (missing : Failure) : Except StoreFault (Option α) → Option Failure
  | .error fault => some (.storage fault)
  | .ok none => some missing
  | .ok (some _) => none

/-- The latest report of a node, if the store tells it. -/
def reportOf (node : String) (front : Front) : Option Report :=
  (Front.getReport node front).1.toOption.join

/-- The relay under the host of a node's latest report, if the store tells it. -/
def relayOf (node : String) (front : Front) : Option Relay :=
  (reportOf node front).bind fun report =>
    (Front.getRelay report.relayHost front).1.toOption.join

/-- What is checked before a command is run. -/
inductive CommandCheck where
  | caller
  | form
  | user
  | command
  | timeout
  | callerKey
  | report
  | port
  | relay
  | relayKey

namespace CommandCheck

/-- The checks of the form that comes with the request. -/
def ofForm : List CommandCheck := [form, user, command, timeout, callerKey]

/-- The checks of the way to the node. -/
def ofNode : List CommandCheck := [report, port, relay, relayKey]

/-- The order of the checks. -/
def inOrder : List CommandCheck := caller :: ofForm ++ ofNode

/-- The failure of a check by itself, if it fails. A check of something that is not there at all
does not fail.
-/
def failure? (context : Context) (request : Http.Request) (node : String) (front : Front)
    : CommandCheck → Option Failure
  | caller =>
      match callerOf request context.now front with
      | .error failure => some failure
      | .ok _ => none
  | form => if (CommandForm.ofRequest? request).isNone then some .invalidForm else none
  | user =>
      (CommandForm.ofRequest? request).bind fun form =>
        if (Text.trim form.user).isEmpty then some (.missingField "User name required") else none
  | command =>
      (CommandForm.ofRequest? request).bind fun form =>
        if (Text.trim form.command).isEmpty then some (.missingField "Command required") else none
  | timeout =>
      (CommandForm.ofRequest? request).bind fun form =>
        match requestedTimeout form.timeout with
        | .error failure => some failure
        | .ok _ => none
  | callerKey =>
      (CommandForm.ofRequest? request).bind fun form =>
        if isBadKey context.readKey (Text.trim form.key) then some .invalidKey else none
  | report => lookupFailure? .nodeNotFound (Front.getReport node front).1
  | port =>
      (reportOf node front).bind fun report =>
        if 1 ≤ report.remotePort ∧ report.remotePort ≤ 65535 then none else some .notConnected
  | relay =>
      (reportOf node front).bind fun report =>
        lookupFailure? .relayNotRegistered (Front.getRelay report.relayHost front).1
  | relayKey =>
      (relayOf node front).bind fun relay =>
        if isBadKey context.readKey relay.key then some .relayMisconfigured else none

/-- The failure of the first check that fails. -/
def firstFailure? (context : Context) (request : Http.Request) (node : String) (front : Front)
    : Option Failure :=
  inOrder.findSome? (failure? context request node front)

end CommandCheck

-----------------------------------------------------------------------------------------
-- What the parts of the preparation come to
-----------------------------------------------------------------------------------------

open FleetOps.Service.Action

section

variable (request : Http.Request) (now : Int) (front : Front)

/-- Looking up the session comes to what the store tells, and leaves the store alike. -/
theorem sessionUser_perform
    : ((sessionUser request now).perform front).1
        = (userLoggedIn request now front).mapError Failure.storage
      ∧ front.Alike ((sessionUser request now).perform front).2 := by
  unfold sessionUser userLoggedIn
  cases Http.Cookie.find? request sessionCookie with
  | none => exact ⟨rfl, .refl front⟩
  | some id =>
      cases named : id.isEmpty with
      | true =>
          simp only [named, if_true, perform_pure]
          exact ⟨rfl, .refl front⟩
      | false =>
          have later : front.Alike (Front.getSession id front).2 := front.alike_onBackend _ _
          simp only [named, Bool.false_eq_true, if_false, perform_bind, perform_ask]
          cases (Front.getSession id front).1 with
          | error fault => exact ⟨rfl, later⟩
          | ok session => exact ⟨rfl, later⟩

/-- Identifying a browser comes to what the session tells, and leaves the store alike. -/
theorem identifyBrowser_perform
    : ((identifyBrowser request now).perform front).1 = browserOf request now front
      ∧ front.Alike ((identifyBrowser request now).perform front).2 := by
  obtain ⟨told, later⟩ := sessionUser_perform request now front
  unfold identifyBrowser browserOf
  generalize userLoggedIn request now front = logged at told ⊢
  rcases logged with fault | user
  · rw [Except.mapError] at told
    rw [perform_bind_error told]
    exact ⟨rfl, later⟩
  · rw [Except.mapError] at told
    rw [perform_bind_ok told]
    cases user with
    | some user => exact ⟨rfl, later⟩
    | none => cases (presentedKey request).isSome <;> exact ⟨rfl, later⟩

end

section

variable {front other : Front} (alike : front.Alike other)

include alike

/-- Stores that are alike know the same browsers. -/
theorem browserOf_alike (request : Http.Request) (now : Int)
    : browserOf request now front = browserOf request now other := by
  have sessions (id : String) : (Front.getSession id front).1 = (Front.getSession id other).1 :=
    alike.onBackend _ _
  unfold browserOf userLoggedIn
  simp only [sessions]

end

/-- The key is looked at before the session, and both as the store was found. -/
theorem identify_perform (request : Http.Request) (now : Int) (front : Front)
    : ((identify request now).perform front).1 = callerOf request now front
      ∧ front.Alike ((identify request now).perform front).2 := by
  unfold identify callerOf presentsAdminKey
  cases presentedKey request with
  | none => exact identifyBrowser_perform request now front
  | some key =>
      have checked := front.alike_validateKey key true
      simp only [perform_bind, perform_ask]
      rcases (Front.validateKey key true front).1 with fault | accepted
      · exact ⟨rfl, checked⟩
      · cases accepted with
        | true => exact ⟨rfl, checked⟩
        | false =>
            obtain ⟨told, later⟩ :=
              identifyBrowser_perform request now (Front.validateKey key true front).2
            exact ⟨told.trans (browserOf_alike checked request now).symm, checked.trans later⟩

-----------------------------------------------------------------------------------------
-- What passes the checks
-----------------------------------------------------------------------------------------

/-- The command is what a form asks for. -/
structure CommandRequest.Follows (form : CommandForm) (defaultTimeout : Nat)
    (readKey : PrivateKey.Reader) (wanted : CommandRequest)
    : Prop where
  user : wanted.user = Text.trim form.user
  command : wanted.command = Text.trim form.command
  timeout
    : ∃ asked,
        requestedTimeout form.timeout = .ok asked ∧ wanted.timeout = asked.getD defaultTimeout
  credentials
    : Credentials.build (Text.trim form.user) (Text.trim form.key) (Text.trim form.password) readKey
      = .ok wanted.credentials

/-- The plan goes to a node by its latest report, over the relay that the store has for it. -/
structure PlanFollows (readKey : PrivateKey.Reader) (node : String) (front : Front)
    (report : Report) (plan : Supervision.Plan)
    : Prop where
  addressed : plan.node = node
  reported : (Front.getReport node front).1 = .ok (some report)
  port : report.tunnelPort = some plan.port
  relay : (Front.getRelay report.relayHost front).1 = .ok (some plan.relay)
  relayCredentials
    : Credentials.build plan.relay.user plan.relay.key plan.relay.password readKey
      = .ok plan.relayCredentials

/-- Whatever was prepared is what the request asks for and the store tells. -/
structure Prepared.Follows (context : Context) (request : Http.Request) (node : String)
    (front : Front) (prepared : Prepared)
    : Prop where
  caller : callerOf request context.now front = .ok prepared.caller
  form
    : ∃ form,
        CommandForm.ofRequest? request = some form
        ∧ prepared.request.Follows form context.commandTimeout context.readKey
  plan : PlanFollows context.readKey node front prepared.report prepared.plan
  nodeCredentials : prepared.plan.nodeCredentials = prepared.request.credentials
  command : prepared.plan.command = prepared.request.command

/-- The result is the first failure, if there is one, and else a value of which something holds. -/
def Settles {α : Type} (failure? : Option Failure) (holds : α → Prop) (result : Except Failure α)
    : Prop :=
  match failure? with
  | some failure => result = .error failure
  | none => ∃ value, result = .ok value ∧ holds value

namespace Settles

variable {α β : Type} {first later : Option Failure} {holds : α → Prop} {then_ : β → Prop}
  {front : Front}

/-- What settles with a failure has it as the first. -/
theorem of_error {failure : Failure} (settled : Settles first holds (.error failure))
    : first = some failure := by
  cases first with
  | some other =>
      cases settled
      rfl
  | none =>
      obtain ⟨_, done, _⟩ := settled
      cases done

/-- What settles with a value has no failure, and the value holds what is wanted. -/
theorem of_ok {value : α} (settled : Settles first holds (.ok value))
    : first = none ∧ holds value := by
  cases first with
  | some failure => cases settled
  | none =>
      obtain ⟨_, done, held⟩ := settled
      cases done
      exact ⟨rfl, held⟩

/-- An action fails first if what it begins with does, and else as it goes on. -/
theorem bind {action : Action α} {next : α → Action β}
    (settled : Settles first holds (action.perform front).1)
    (rest
      : ∀ value,
          holds value → Settles later then_ ((next value).perform (action.perform front).2).1)
    : Settles (first.or later) then_ ((action >>= next).perform front).1 := by
  cases first with
  | some failure =>
      rw [perform_bind_error settled]
      rfl
  | none =>
      obtain ⟨value, done, held⟩ := settled
      rw [perform_bind_ok done]
      exact rest value held

/-- Finishing what settles neither fails nor succeeds in its place. -/
theorem map {action : Action α} {finish : α → β}
    (settled : Settles first holds (action.perform front).1)
    (rest : ∀ value, holds value → then_ (finish value))
    : Settles first then_ ((action >>= fun value => pure (finish value)).perform front).1 := by
  rw [← @Option.or_none _ first]
  exact settled.bind fun value held => ⟨_, rfl, rest value held⟩

/-- Looking for something fails first if the store does or has nothing. -/
theorem lookup {act : StoreAction (Option α)} {answer : Except StoreFault (Option α)}
    {missing : Failure} {next : α → Action β} (told : (act front).1 = answer)
    (rest
      : ∀ value,
          answer = .ok (some value) → Settles later then_ ((next value).perform (act front).2).1)
    : Settles ((lookupFailure? missing answer).or later) then_
        ((ask act >>= fun found => require missing found >>= next).perform front).1 := by
  rcases answer with fault | found
  · have asked : ((ask act).perform front).1 = .error (.storage fault) := by
      rw [perform_ask, told]
      rfl
    rw [perform_bind_error asked]
    rfl
  · have asked : ((ask act).perform front).1 = .ok found := by
      rw [perform_ask, told]
      rfl
    rw [perform_bind_ok asked]
    cases found with
    | none => rfl
    | some value => exact rest value rfl

end Settles

/-- The first thing that is found is found in the first element or in the rest. -/
theorem findSome?_cons_eq_or {α β : Type} (f : α → Option β) (first : α) (rest : List α)
    : (first :: rest).findSome? f = (f first).or (rest.findSome? f) := by
  rw [List.findSome?_cons]
  cases f first <;> rfl

section

variable {context : Context} {request : Http.Request} {node : String} {front : Front}

/-- With a text that is no key nothing is built. -/
theorem build_of_badKey {readKey : PrivateKey.Reader} {key : String}
    (bad : isBadKey readKey key = true) (user password : String)
    : Credentials.build user key password readKey = .error .invalidKey := by
  simp only [isBadKey, Bool.and_eq_true, Bool.not_eq_true', Option.isNone_iff_eq_none] at bad
  simp [Credentials.build, Credentials.keyMethods, bad]

/-- With a key, or without any, there are credentials. -/
theorem build_of_usableKey {readKey : PrivateKey.Reader} {key : String}
    (usable : isBadKey readKey key = false) (user password : String)
    : ∃ credentials, Credentials.build user key password readKey = .ok credentials := by
  unfold isBadKey at usable
  unfold Credentials.build Credentials.keyMethods
  cases blank : Text.isBlankText key with
  | true => exact ⟨_, rfl⟩
  | false =>
      cases decoded : readKey key with
      | none => simp [blank, decoded] at usable
      | some key => exact ⟨_, rfl⟩

/-- The form is read and checked one field after another. -/
theorem formChecks_settle
    : Settles (CommandCheck.ofForm.findSome? (·.failure? context request node front))
        (fun wanted => ∃ form,
          CommandForm.ofRequest? request = some form
          ∧ wanted.Follows form context.commandTimeout context.readKey)
        (match CommandForm.ofRequest? request with
        | none => .error .invalidForm
        | some form => CommandRequest.ofForm form context.commandTimeout context.readKey) := by
  simp only [CommandCheck.ofForm, CommandCheck.failure?, List.findSome?_cons, List.findSome?_nil]
  cases CommandForm.ofRequest? request with
  | none => rfl
  | some form =>
      simp only [CommandRequest.ofForm, Option.isNone_some, Bool.false_eq_true, if_false,
        Option.bind_some]
      cases (Text.trim form.user).isEmpty with
      | true => rfl
      | false =>
          cases (Text.trim form.command).isEmpty with
          | true => rfl
          | false =>
              cases asked : requestedTimeout form.timeout with
              | error failure => rfl
              | ok timeout =>
                  cases bad : isBadKey context.readKey (Text.trim form.key) with
                  | true => 
                      rw [build_of_badKey bad]
                      rfl
                  | false =>
                      obtain ⟨credentials, built⟩ := build_of_usableKey bad (Text.trim form.user)
                        (Text.trim form.password)
                      rw [built]
                      exact ⟨_, rfl, form, rfl, rfl, rfl, ⟨timeout, asked, rfl⟩, built⟩

/-- A report is of use if its port is one. -/
theorem tunnelPort_settles (report : Report) (front : Front)
    : Settles
        (if 1 ≤ report.remotePort ∧ report.remotePort ≤ 65535 then none else some .notConnected)
        (fun port => report.tunnelPort = some port)
        ((require .notConnected report.tunnelPort).perform front).1 := by
  by_cases valid : 1 ≤ report.remotePort ∧ report.remotePort ≤ 65535
  · have port : report.tunnelPort = some report.remotePort.toNat.toUInt16 := by
      simp [Report.tunnelPort, valid]
    rw [if_pos valid, port]
    exact ⟨_, rfl, rfl⟩
  · have closed : report.tunnelPort = none := by
      simpa [Report.tunnelPort] using valid
    rw [if_neg valid, closed]
    rfl

/-- The way to a node is looked up and checked one step after another, as the store was found. -/
theorem nodeChecks_settle {later : Front} (alike : front.Alike later) (command : String)
    (credentials : Credentials)
    : Settles (CommandCheck.ofNode.findSome? (·.failure? context request node front))
        (fun planned =>
          PlanFollows context.readKey node front planned.1 planned.2
          ∧ planned.2.nodeCredentials = credentials
          ∧ planned.2.command = command)
        ((planFor node command credentials context.readKey).perform later).1 := by
  have reading : front.Alike (Front.getReport node later).2 :=
    alike.trans (later.alike_onBackend _ _)
  simp only [CommandCheck.ofNode, findSome?_cons_eq_or, List.findSome?_nil, Option.or_none]
  unfold planFor
  refine .lookup (alike.onBackend _ _).symm fun report found => ?_
  have reported : reportOf node front = some report := by
    rw [reportOf, found]
    rfl
  simp only [CommandCheck.failure?, relayOf, reported, Option.bind_some]
  refine .bind (tunnelPort_settles report _) fun port valid => ?_
  rw [perform_require]
  refine .lookup (reading.getRelay _).symm fun relay known => ?_
  have related : (Front.getRelay report.relayHost front).1.toOption.join = some relay := by
    rw [known]
    rfl
  rw [related, Option.bind_some]
  cases bad : isBadKey context.readKey relay.key with
  | true =>
      rw [build_of_badKey bad]
      rfl
  | false =>
      obtain ⟨built, builds⟩ := build_of_usableKey bad relay.user relay.password
      rw [builds]
      exact ⟨_, rfl, ⟨rfl, found, valid, known, builds⟩, rfl, rfl⟩

/-- The preparation fails as the first of the checks that fails on the store as it was found. -/
theorem prepare_settles {id : String} (named : (Text.trim id).isEmpty = false)
    : Settles (CommandCheck.firstFailure? context request (Text.trim id) front)
        (Prepared.Follows context request (Text.trim id) front)
        ((prepare context request id).perform front).1 := by
  obtain ⟨told, alike⟩ := identify_perform request context.now front
  have identified : Settles (CommandCheck.caller.failure? context request (Text.trim id) front)
      (fun caller => callerOf request context.now front = .ok caller)
      ((identify request context.now).perform front).1 := by
    rw [told, CommandCheck.failure?]
    cases callerOf request context.now front with
    | error failure => rfl
    | ok caller => exact ⟨caller, rfl, rfl⟩
  unfold prepare CommandCheck.firstFailure? CommandCheck.inOrder
  rw [List.cons_append, findSome?_cons_eq_or, List.findSome?_append]
  simp only [named, Bool.false_eq_true, if_false]
  refine .bind identified fun caller known => ?_
  have formed : Settles
      (CommandCheck.ofForm.findSome? (·.failure? context request (Text.trim id) front)) _ _ :=
    formChecks_settle
  generalize reading : CommandForm.ofRequest? request = brought at formed ⊢
  cases brought with
  | none =>
      rw [formed.of_error]
      rfl
  | some form =>
      rw [perform_bind, perform_require]
      change Settles _ _
        (CommandRequest.ofForm form context.commandTimeout context.readKey) at formed
      cases filled : CommandRequest.ofForm form context.commandTimeout context.readKey with
      | error failure =>
          rw [filled] at formed
          rw [formed.of_error]
          simp only [filled]
          rfl
      | ok wanted =>
          rw [filled] at formed
          obtain ⟨passed, _, ⟨rfl⟩, follows⟩ := formed.of_ok
          rw [passed, Option.none_or]
          simp only [filled]
          refine (nodeChecks_settle alike wanted.command wanted.credentials).map ?_
          rintro ⟨report, plan⟩ ⟨way, credentials, command⟩
          exact ⟨known, ⟨form, reading, follows⟩, way, credentials, command⟩

end

-----------------------------------------------------------------------------------------
-- The answer
-----------------------------------------------------------------------------------------

section

variable {context : Context} {request : Http.Request} {front : Front} {id : String}

/-- What is prepared does not depend on the network. -/
theorem prepare_hops (context : Context) (hops : Supervision.Hops)
    : prepare { context with hops := hops } request id = prepare context request id := by
  simp only [prepare]

/-- A request for a command is answered by its handler. -/
theorem handle_eq_answerCommand {piece : List UInt8}
    (routed : Route.ofPath? request.uri.path = some (.command piece))
    (posted : request.method = "POST") (decoded : Route.pieceText? piece = some id)
    (context : Context) (front : Front)
    : handle context request front = answerCommand context request front id := by
  simp only [handle, routed, answerRoute, posted, withPiece, decoded, beq_self_eq_true, if_true]

/-- A command that is not prepared is answered with the failure, and not run. -/
theorem answerCommand_of_error {failure : Failure}
    (failed : ((prepare context request id).perform front).1 = .error failure)
    : answerCommand context request front id
      = {
          response := failureResponse failure
          front := ((prepare context request id).perform front).2
          run := none
        } := by
  unfold answerCommand
  generalize (prepare context request id).perform front = performed at failed ⊢
  obtain ⟨result, later⟩ := performed
  cases failed
  rfl

/-- A command that is prepared is run, and answered with what its run comes to. -/
theorem answerCommand_of_ok {prepared : Prepared}
    (done : ((prepare context request id).perform front).1 = .ok prepared)
    : answerCommand context request front id
      = {
          response := prepared.response (prepared.run context).outcome
          front := ((prepare context request id).perform front).2
          run := some (prepared.run context)
        } := by
  unfold answerCommand
  generalize (prepare context request id).perform front = performed at done ⊢
  obtain ⟨result, later⟩ := performed
  cases done
  rfl

end

/-- A browser asks for a command on a node. -/
def uptimeRequest : Http.Request :=
  {
    method := "POST"
    uri := { path := Utf8.encode "/nodes/n1/command", query := none }
    headers :=
      [
        ("cookie", Utf8.encode "fleet-session=s1"),
        ("content-type", Utf8.encode "application/x-www-form-urlencoded")
      ]
    body := .ok (Utf8.encode "user=+ana+&password=p&command=uptime")
    peer := none
  }

/-- A store with one node, its relay, and a user that is logged in. -/
def oneNodeStore : Front :=
  .plain
    (Seed.apply
      {
        apiKeys := []
        relays := [relayFor "hub" "fleet"]
        reports := [{ Report.blank "n1" with relayHost := "hub", remotePort := 2201 }]
        sessions := [{ id := "s1", user := "ana", expiresAt := 0 }]
      }
      .empty)

/-- Hops that take no time to speak of and succeed. -/
def openContext : Context :=
  {
    now := 0
    commandTimeout := 30
    hops :=
      {
        dial := fun _ _ _ _ => .ends 10 (.ok ())
        execute := fun _ _ _ => .ends 10 (.ok (Utf8.encode "up 3 days"))
      }
    draw := 0
  }

end FleetOps.Service
