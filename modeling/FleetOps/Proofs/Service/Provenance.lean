import FleetOps.Proofs.Fleet.Report
import FleetOps.Proofs.Service.NonInterference
import FleetOps.Proofs.Store.Outages

/-! What a check-in files and what it is answered. The report is the one in the body, with marks of
its receipt that no body can forge, and the answer is the login for a relay. If the relays cannot be
listed, then the report has been filed nevertheless.
-/

namespace FleetOps

-----------------------------------------------------------------------------------------
-- What is asked of the store
-----------------------------------------------------------------------------------------

/-- The store accepts the key of a report and files the report, and then lists its relays or fails
to.
-/
structure Front.TakesIn (front : Front) (report : Report)
    (listing : Except StoreFault (List Relay)) (after : Front) : Prop where
  accepts : (Front.validateKey report.apiKey false front).1 = .ok true
  files : (Front.putReport report (Front.validateKey report.apiKey false front).2).1 = .ok ()
  lists
    : Front.listRelays (Front.putReport report (Front.validateKey report.apiKey false front).2).2
      = (listing, after)

namespace Front

variable {front after : Front} {report : Report}

/-- Listing the relays changes nothing. -/
theorem memory_listRelays (front : Front) : (Front.listRelays front).2.memory = front.memory := by
  have told := StoreRequest.listRelays.perform_memory front
  split at told <;> exact told

/-- A report that was filed is in the contents. -/
theorem memory_putReport_ok (filed : (Front.putReport report front).1 = .ok ())
    : (Front.putReport report front).2.memory = front.memory.putReport report := by
  have told := (StoreRequest.putReport report).perform_memory front
  simp only [StoreRequest.perform, filed] at told
  exact told

/-- A report that could not be filed leaves the contents as they were. -/
theorem memory_putReport_error {fault : StoreFault}
    (failed : (Front.putReport report front).1 = .error fault)
    : (Front.putReport report front).2.memory = front.memory := by
  have told := (StoreRequest.putReport report).perform_memory front
  simp only [StoreRequest.perform, failed] at told
  exact told

/-- A store that takes a report in gains it, and nothing else. -/
theorem TakesIn.gains {listing : Except StoreFault (List Relay)}
    (takes : front.TakesIn report listing after)
    : front.memory.Gains report after.memory := by
  obtain ⟨accepts, files, lists⟩ := takes
  have checked := (front.alike_validateKey report.apiKey false).memory_eq
  have listed :=
    memory_listRelays (Front.putReport report (Front.validateKey report.apiKey false front).2).2
  rw [lists, memory_putReport_ok files, ← checked] at listed
  rw [show after.memory = front.memory.putReport report from listed]
  exact front.memory.gains_putReport report

end Front

namespace Service

open FleetOps.Service.Action

-----------------------------------------------------------------------------------------
-- Where a request comes from
-----------------------------------------------------------------------------------------

/-- Characters are split into what is between the separators, by induction on them. -/
theorem splitChars_eq_splitOn (separator : Char) (s : List Char)
    : Http.Cookie.splitChars separator s = s.splitOn separator := by
  induction s with
  | nil => rfl
  | cons c rest ih =>
      rw [Http.Cookie.splitChars, ih, List.splitOn, List.splitOn,
        List.splitOnP_cons_eq_if_modifyHead]
      cases pieces : rest.splitOnP (· == separator) with
      | nil => exact absurd pieces (List.splitOnP_ne_nil _ rest)
      | cons piece others => rfl

/-- The entries of the list of addresses that proxies keep, with the blanks around them. -/
def forwarded (request : Http.Request) : List (List Char) :=
  match request.header? "x-forwarded-for" with
  | some value => value.toList.splitOn ','
  | none => []

/-- The address from which a request comes: the first entry of the list of proxies that is more than
blanks, or else the address of the peer if it is known.
-/
inductive CallsFrom (request : Http.Request) : String → Prop
  | proxied {blanks rest : List (List Char)} {entry : List Char}
    (entries : forwarded request = blanks ++ entry :: rest)
    (skipped : ∀ other ∈ blanks, Text.trimChars other = [])
    (first : Text.trimChars entry ≠ [])
    : CallsFrom request (String.ofList (Text.trimChars entry))
  | direct {peer : Http.Address}
    (unproxied : ∀ entry ∈ forwarded request, Text.trimChars entry = [])
    (known : request.peer = some peer)
    : CallsFrom request peer.text
  | unknown (unproxied : ∀ entry ∈ forwarded request, Text.trimChars entry = [])
    (hidden : request.peer = none)
    : CallsFrom request ""

/-- The caller is the first of the forwarded addresses that is not blank, or else the peer. -/
theorem callerAddress_eq (request : Http.Request)
    : callerAddress request
      = match (forwarded request).find? fun entry => !(Text.trimChars entry).isEmpty with
        | some entry => String.ofList (Text.trimChars entry)
        | none => (request.peer.map (·.text)).getD "" := by
  have entries
      : ((request.header? "x-forwarded-for").map fun value =>
          (Http.Cookie.splitChars ',' value.toList).map Text.trimChars).getD []
        = (forwarded request).map Text.trimChars := by
    simp only [splitChars_eq_splitOn, forwarded]
    cases request.header? "x-forwarded-for" <;> rfl
  simp only [callerAddress, entries, List.find?_map, Function.comp_def]
  cases (forwarded request).find? fun entry => !(Text.trimChars entry).isEmpty <;> rfl

/-- The service takes a request to come from where it does, by cases on the entries and the peer. -/
theorem callsFrom_iff {request : Http.Request} {address : String}
    : CallsFrom request address ↔ address = callerAddress request := by
  rw [callerAddress_eq]
  constructor
  · intro calls
    cases calls with
    | @proxied blanks rest entry entries skipped first =>
        have none : blanks.find? (fun entry => !(Text.trimChars entry).isEmpty) = none :=
          List.find?_eq_none.mpr fun other among => by simp [skipped other among]
        have found : (!(Text.trimChars entry).isEmpty) = true := by simpa using first
        rw [entries, List.find?_append, none, Option.none_or, List.find?_cons, found]
    | direct unproxied known =>
        rw [List.find?_eq_none.mpr fun entry among => by simp [unproxied entry among], known]
        rfl
    | unknown unproxied hidden =>
        rw [List.find?_eq_none.mpr fun entry among => by simp [unproxied entry among], hidden]
        rfl
  · intro same
    subst same
    cases found : (forwarded request).find? fun entry => !(Text.trimChars entry).isEmpty with
    | some entry =>
        obtain ⟨first, blanks, rest, same, skipped⟩ := List.find?_eq_some_iff_append.mp found
        refine .proxied same (fun other among => ?_) (by simpa using first)
        simpa using skipped other among
    | none =>
        have unproxied : ∀ entry ∈ forwarded request, Text.trimChars entry = [] :=
          fun entry among => by simpa using List.find?_eq_none.mp found entry among
        cases known : request.peer with
        | some peer => exact .direct unproxied known
        | none => exact .unknown unproxied known

-----------------------------------------------------------------------------------------
-- What is filed
-----------------------------------------------------------------------------------------

/-- The fields of a report that tell of its receipt. -/
def marks (report : Report) : List (String × Json.Value) :=
  [("ip_global", .text report.globalIp), ("host_global", .text report.globalHost),
    ("server_time", .number (.int report.receivedAt)), ("api_key", .text report.apiKey)]

/-- The report is the one in the body of a request, except that it tells of its receipt: when it
came, with which key and from where. Whatever the body has for these four fields, there is nothing
else under their names in what the report is written as. It has a name.
-/
structure Receives (context : Context) (request : Http.Request) (report : Report) : Prop where
  body
    : ∃ sent,
        (jsonBody? request).bind (Report.ofTree? Json.maxOpenBrackets) = some sent
        ∧ report
          = { sent with
              receivedAt := report.receivedAt
              apiKey := report.apiKey
              globalIp := report.globalIp
              globalHost := report.globalHost }
  receivedAt : report.receivedAt = context.now
  apiKey : presentedKey request = some report.apiKey
  globalIp : CallsFrom request report.globalIp
  globalHost : report.globalHost = report.globalIp
  named : Text.isBlankText report.id = false
  marks
    : ∀ mark ∈ marks report,
        report.members.filter (·.1 == mark.1) = [mark].filter Report.isWritten

section

variable {context : Context} {request : Http.Request} {front : Front}

/-- What is filed for a report that came with a key is received. -/
theorem receives_stamp {sent : Report} {key : String}
    (brought : (jsonBody? request).bind (Report.ofTree? Json.maxOpenBrackets) = some sent)
    (presented : presentedKey request = some key) (named : Text.isBlankText sent.id = false)
    : Receives context request (stamp sent context.now key (callerAddress request)) where
  body := ⟨sent, brought, rfl⟩
  receivedAt := rfl
  apiKey := presented
  globalIp := callsFrom_iff.mpr rfl
  globalHost := rfl
  named := named
  marks := by
    obtain ⟨tree, -, read⟩ := Option.bind_eq_some_iff.mp brought
    obtain ⟨fields, -, told⟩ := Report.ofTree?_eq_some_iff.mp read
    intro mark among
    -- The telemetry is as it was sent, and none of it is under the name of a field.
    have undeclared
        : ∀ name ∈ (stamp sent context.now key (callerAddress request)).telemetry.names,
            name ∉ Report.fieldNames :=
      told.fits.undeclared
    refine Report.members_filter undeclared ?_
    simp only [Service.marks, Report.declared, List.mem_cons] at among ⊢
    tauto

-----------------------------------------------------------------------------------------
-- How a check-in ends
-----------------------------------------------------------------------------------------

/-- The ways in which a check-in ends: it is refused before anything is filed, or the report is
filed and the relays cannot be listed, or it is answered with the login for one of them.
-/
inductive CheckInEnds (context : Context) (request : Http.Request) (front : Front)
    : Except Failure Http.Response × Front → Prop
  | refused {failure : Failure} {after : Front} (unchanged : after.memory = front.memory)
    : CheckInEnds context request front (.error failure, after)
  | unanswered {report : Report} {fault : StoreFault} {after : Front}
    (receives : Receives context request report)
    (takes : front.TakesIn report (.error fault) after)
    : CheckInEnds context request front (.error (.storage fault), after)
  | answered {report : Report} {relays : List Relay} {after : Front}
    (receives : Receives context request report)
    (takes : front.TakesIn report (.ok relays) after)
    : CheckInEnds context request front
        (.ok (jsonResponse 201 (pickLogin relays context.draw).toValue), after)

/-- A store that takes the report in decides by its listing what the rest of the check-in comes to.
-/
theorem filing_perform {report : Report} {listing : Except StoreFault (List Relay)}
    {after : Front} (takes : front.TakesIn report listing after)
    : (filing context report).perform (Front.validateKey report.apiKey false front).2
      = ((listing.map fun relays =>
            jsonResponse 201 (pickLogin relays context.draw).toValue).mapError Failure.storage,
          after) := by
  simp only [filing, perform_bind, perform_ask, takes.files, takes.lists, Except.mapError]
  cases listing <;> rfl

/-- A check-in ends in one of the three ways, by cases on what fails. -/
theorem checkIn_ends (context : Context) (request : Http.Request) (front : Front)
    : CheckInEnds context request front ((checkIn context request).perform front) := by
  by_cases presents : PresentsKey request false front
  · obtain ⟨key, presented, accepted⟩ := presents
    have unchanged := (front.alike_validateKey key false).memory_eq.symm
    rw [checkIn_goesOn presented accepted]
    cases brought : (jsonBody? request).bind (Report.ofTree? Json.maxOpenBrackets) with
    | none => exact .refused unchanged
    | some sent =>
        cases named : Text.isBlankText sent.id with
        | true =>
            simp only [named, if_true]
            exact .refused unchanged
        | false =>
            have receives := @receives_stamp context request sent key brought presented named
            simp only [named, Bool.false_eq_true, if_false]
            generalize marked : stamp sent context.now key (callerAddress request) = report
              at receives ⊢
            have keyed : report.apiKey = key := marked ▸ rfl
            subst keyed
            cases files
              : (Front.putReport report (Front.validateKey report.apiKey false front).2).1 with
            | error fault =>
                simp only [filing, perform_bind, perform_ask, files, Except.mapError]
                exact .refused ((Front.memory_putReport_error files).trans unchanged)
            | ok _ =>
                rcases lists
                  : Front.listRelays
                    (Front.putReport report (Front.validateKey report.apiKey false front).2).2
                  with ⟨fault | relays, after⟩
                · rw [filing_perform ⟨accepted, files, lists⟩]
                  exact .unanswered receives ⟨accepted, files, lists⟩
                · rw [filing_perform ⟨accepted, files, lists⟩]
                  exact .answered receives ⟨accepted, files, lists⟩
  · obtain ⟨failure, refused⟩ := keyCheck_refuses presents
    have fails : Fails failure (checkIn context request) front := (requireKey_fails refused).bind _
    rw [← Prod.mk.eta (p := (checkIn context request).perform front), fails.result]
    exact .refused fails.front.memory_eq.symm

/-- A check-in whose report the store takes in is answered with a login. -/
theorem checkIn_answers {report : Report} {relays : List Relay} {after : Front}
    (receives : Receives context request report) (takes : front.TakesIn report (.ok relays) after)
    : (checkIn context request).perform front
      = (.ok (jsonResponse 201 (pickLogin relays context.draw).toValue), after) := by
  obtain ⟨sent, brought, same⟩ := receives.body
  have stamped : stamp sent context.now report.apiKey (callerAddress request) = report := by
    rw [receives.globalHost, callsFrom_iff.mp receives.globalIp, receives.receivedAt] at same
    exact same.symm
  have named : Text.isBlankText sent.id = false := by
    have sameId : report.id = sent.id := by rw [same]
    rw [← sameId]
    exact receives.named
  rw [checkIn_goesOn receives.apiKey takes.accepts, brought]
  simp only [named, Bool.false_eq_true, if_false]
  rw [stamped, filing_perform takes]
  rfl

-----------------------------------------------------------------------------------------
-- What a check-in is answered
-----------------------------------------------------------------------------------------

/-- The login is the one for a listed relay, or for none if none is listed. It is written as the
empty object then, and otherwise only if the relay itself has nothing in its fields.
-/
structure LoginAmong (relays : List Relay) (login : RelayLogin) : Prop where
  listed : relays ≠ [] → ∃ relay ∈ relays, login = relay.login
  unlisted : relays = [] → login = RelayLogin.none
  empty
    : login.toValue = .object []
      ↔ relays = [] ∨ ∃ relay ∈ relays, login = relay.login ∧ relay.login = RelayLogin.none

/-- The login that is handed out is an empty object only if there is none. -/
theorem toValue_eq_empty_iff {login : RelayLogin}
    : login.toValue = .object [] ↔ login = RelayLogin.none := by
  obtain ⟨host, port, user, key, password⟩ := login
  simp [RelayLogin.toValue, RelayLogin.textMember, RelayLogin.none]

/-- A login is picked among those for the listed relays. -/
theorem loginAmong_pickLogin (relays : List Relay) (draw : Nat)
    : LoginAmong relays (pickLogin relays draw) := by
  unfold pickLogin
  cases relays with
  | nil => exact ⟨fun some => absurd rfl some, fun _ => rfl, by simp [toValue_eq_empty_iff]⟩
  | cons first rest =>
      have bound : draw % (first :: rest).length < (first :: rest).length :=
        Nat.mod_lt _ (Nat.succ_pos _)
      simp only [List.getElem?_eq_getElem bound]
      have among := List.getElem_mem bound
      generalize (first :: rest)[draw % (first :: rest).length] = relay at among
      refine ⟨fun _ => ⟨relay, among, rfl⟩, fun none => absurd none (List.cons_ne_nil _ _), ?_⟩
      rw [toValue_eq_empty_iff]
      constructor
      · exact fun blank => .inr ⟨relay, among, rfl, blank⟩
      · intro unnamed
        rcases unnamed with none | ⟨other, _, same, blank⟩
        · exact absurd none (List.cons_ne_nil _ _)
        · exact same.trans blank

/-- A check-in is a success only if the store has accepted its key and filed exactly one report, the
one of the body with the marks of its receipt. It is answered then with the login for one of the
relays that the store lists. Anything else has left the contents as they were, unless the store
failed to list its relays, which it is asked for once the report is filed. Nothing but that keeps a
report that is taken in from being a success.
-/
theorem checkIn_provenance (routed : Route.ofPath? request.uri.path = some .report)
    : let exchange := handle context request front
      (exchange.response.status = 201
        → ∃ report relays login,
            Receives context (request.decoded context.decoders) report
            ∧ front.TakesIn report (.ok relays) exchange.front
            ∧ front.memory.Gains report exchange.front.memory
            ∧ LoginAmong relays login
            ∧ exchange.response = (jsonResponse 201 login.toValue).encodedFor request)
      ∧ (exchange.response.status ≠ 201
        → exchange.front.memory = front.memory
          ∨ ∃ report fault,
              Receives context (request.decoded context.decoders) report
              ∧ front.TakesIn report (.error fault) exchange.front
              ∧ front.memory.Gains report exchange.front.memory
              ∧ exchange.response = failureResponse (.storage fault)
              ∧ exchange.response.status = 500)
      ∧ ∀ report relays after,
          request.method = "POST"
          → Receives context (request.decoded context.decoders) report
          → front.TakesIn report (.ok relays) after
          → exchange.response.status = 201 := by
  intro exchange
  have unsuccessful (failure : Failure) : (failureResponse failure).status ≠ 201 := by
    have failing := failureResponse_status failure
    omega
  refine and_assoc.mp ⟨?_, ?_⟩
  · by_cases posted : request.method = "POST"
    · have ends := checkIn_ends context (request.decoded context.decoders) front
      simp only [exchange, handle_eq_checkIn routed posted, answerWith]
      generalize (checkIn context (request.decoded context.decoders)).perform front = performed
        at ends ⊢
      cases ends with
      | refused unchanged =>
          simp only [encodedFor_failing (failureResponse_status _)]
          exact ⟨fun accepted => absurd accepted (unsuccessful _), fun _ => .inl unchanged⟩
      | unanswered receives takes =>
          simp only [encodedFor_failing (failureResponse_status _)]
          refine ⟨fun accepted => absurd accepted (unsuccessful _), fun _ => .inr ?_⟩
          exact ⟨_, _, receives, takes, takes.gains, rfl, rfl⟩
      | @answered report relays after receives takes =>
          refine ⟨fun _ => ?_, fun failed => absurd ?_ failed⟩
          · exact ⟨report, relays, _, receives, takes, takes.gains, loginAmong_pickLogin _ _, rfl⟩
          · exact encodedFor_status _ request
    · have same : exchange = untouched front noMethod := by
        simp only [exchange, handle, routed, answerRoute, posted, beq_iff_eq, if_false]
      rw [same]
      refine ⟨fun accepted => ?_, fun _ => .inl rfl⟩
      exact absurd (show noMethod.status = 201 from accepted) (by decide)
  · intro report relays after posted receives takes
    simp only [exchange, handle_eq_checkIn routed posted, answerWith,
      checkIn_answers receives takes]
    exact encodedFor_status _ request

end

/-- A report says that it came with another key and from another address. It is filed with those
that it did come with.
-/
theorem forgedReport_isMarked
    : let front := Front.plain (oneKeyContents false [relayFor "hub" "fleet"] [])
      let body := "\x7b\"id\":\"n1\",\"api_key\":\"x\",\"ip_global\":\"192.0.2.1\"\x7d"
      let request :=
        { keyRequest "POST" "/report" body with peer := some (.v4 [203, 0, 113, 9]) }
      let exchange := handle openContext request front
      Route.ofPath? request.uri.path = some .report
      ∧ exchange.response.status = 201
      ∧ ∃ report relays login,
          Receives openContext (request.decoded openContext.decoders) report
          ∧ report.id = "n1"
          ∧ (report.apiKey, report.globalIp) = ("k", "203.0.113.9")
          ∧ front.memory.Gains report exchange.front.memory
          ∧ LoginAmong relays login
          ∧ exchange.response = (jsonResponse 201 login.toValue).encodedFor request := by
  intro front body request exchange
  have routed : Route.ofPath? request.uri.path = some .report := rfl
  have accepted : exchange.response.status = 201 := by decide +kernel
  obtain ⟨report, relays, login, receives, -, gains, among, answered⟩ :=
    (@checkIn_provenance openContext request front routed).1 accepted
  have filed : (exchange.front.memory.reports.get? "n1").map
      (fun report => (report.id, report.apiKey, report.globalIp))
      = some ("n1", "k", "203.0.113.9") := by decide +kernel
  have known : "n1" = report.id := by
    by_contra other
    rw [gains.latest, if_neg other] at filed
    cases filed
  rw [gains.latest, if_pos known] at filed
  obtain ⟨named, marked⟩ := Prod.mk.inj (Option.some.inj filed)
  exact ⟨routed, accepted, report, relays, login, receives, named, marked, gains, among, answered⟩

/-- A report is filed although the relays cannot be listed, and the check-in fails. A relay that has
nothing in its fields is given out as the empty object. Of the headers of proxies only the first one
counts, even if it has no entries.
-/
theorem checkIn_exceptions
    : let request := keyRequest "POST" "/report" "\x7b\"id\":\"n1\"\x7d"
      let unlisted : Front :=
        .direct
          { Backend.ofMemory (oneKeyContents false [] []) with
            outages := [(.listRelays, "list_ssh_servers down")] }
      let failed := handle openContext request unlisted
      let blank : Relay := { host := "", port := 0, user := "", key := "", password := "" }
      let unnamed := Front.plain (oneKeyContents false [blank] [])
      let proxied :=
        { request with
          headers :=
            request.headers
              ++ [("x-forwarded-for", Utf8.encode " "),
                ("x-forwarded-for", Utf8.encode "203.0.113.9")] }
      let served := handle openContext proxied unnamed
      failed.response.status = 500
      ∧ (unlisted.memory.reports.get? "n1").isNone
      ∧ (failed.front.memory.reports.get? "n1").isSome
      ∧ (Front.listRelays unnamed).1 = .ok [blank]
      ∧ served.response = jsonResponse 201 (.object [])
      ∧ (served.front.memory.reports.get? "n1").map (·.globalIp) = some "" := by
  intro request unlisted failed blank unnamed proxied served
  have listed : (Front.listRelays unnamed).1 = .ok [blank] := rfl
  exact ⟨by decide +kernel, by decide +kernel, by decide +kernel, listed, by decide +kernel,
    by decide +kernel⟩

end Service

end FleetOps
