import FleetOps.Proofs.Fleet.RoundTrip
import FleetOps.Proofs.Service.CheckedIn
import FleetOps.Proofs.Service.NonInterference

/-! Listings that are read back. Reports that came in by check-ins are listed in a text from which
the reader that accepted them makes the same list, unless one of them is nested as deep as that
reader allows: in the brackets of the list it is too deep, and the reader refuses the whole list.
-/

namespace FleetOps

open Json

-----------------------------------------------------------------------------------------
-- Lists of reports
-----------------------------------------------------------------------------------------

namespace Report

/-- Reads a list of reports from the octets of its text. -/
def listOfBytes? (body : List UInt8) : Option (List Report) :=
  (Tree.ofBytes? body).bind (Seed.entries? (ofTree? (maxOpenBrackets - 1)))

section

variable {report : Report} {reports : List Report}

/-- A report that a request brings is one that a reader makes. -/
theorem isAsRead_of_body {request : Http.Request}
    (brought : (Service.jsonBody? request).bind (ofTree? maxOpenBrackets) = some report)
    : report.IsAsRead := by
  obtain ⟨tree, sent, read⟩ := Option.bind_eq_some_iff.mp brought
  unfold Service.jsonBody? at sent
  split at sent
  · split at sent
    · exact isAsRead_of_read sent read
    · cases sent
  · cases sent

/-- The marks of its receipt leave a report one that a reader makes. -/
theorem IsAsRead.stamp (asRead : report.IsAsRead) {now : Int} (clock : FitsSigned now)
    (key address : String)
    : (Service.stamp report now key address).IsAsRead where
  fits := { asRead.fits with receivedAt := clock }
  integers := asRead.integers

/-- The text of a list of reports is read as the list of their trees. -/
theorem listOfBytes?_eq
    (written : ∀ report ∈ reports, report.IsAsRead ∧ report.HasIntegers)
    : listOfBytes? (Utf8.encode (Service.reportList reports).render)
      = (reports.map fun report => Tree.ofValue report.toValue).mapM
          (ofTree? (maxOpenBrackets - 1)) := by
  have words : (Service.reportList reports).NumbersAre Number.IsWord := by
    refine .array (List.forall_mem_map.mpr fun report listed => ?_)
    obtain ⟨asRead, integers⟩ := written report listed
    exact asRead.fits.numbersAre_toValue (asRead.words integers)
  rw [listOfBytes?, Tree.ofBytes?_encode, Tree.ofText?_render words, Option.bind_some,
    Seed.entries?, Service.reportList, Tree.ofValue, Tree.ofValues_eq_map, List.map_map]
  rfl

/-- A list is read back if in none of its reports as many brackets are open as the reader allows. -/
theorem listOfBytes?_eq_some
    (written : ∀ report ∈ reports, report.IsAsRead ∧ report.HasIntegers)
    (shallow : ∀ report ∈ reports, report.Nests (maxOpenBrackets - 2))
    : listOfBytes? (Utf8.encode (Service.reportList reports).render) = some reports := by
  rw [listOfBytes?_eq written, Tree.mapM_eq_some_iff, List.forall₂_map_left_iff,
    List.forall₂_same]
  intro report listed
  have fits : report.Fits (maxOpenBrackets - 2) :=
    { (written report listed).1.fits with nests := shallow report listed }
  exact fits.ofTree?_toValue

/-- Otherwise nothing of it is. -/
theorem listOfBytes?_eq_none
    (written : ∀ report ∈ reports, report.IsAsRead ∧ report.HasIntegers)
    (deep : ¬ ∀ report ∈ reports, report.Nests (maxOpenBrackets - 2))
    : listOfBytes? (Utf8.encode (Service.reportList reports).render) = none := by
  rw [listOfBytes?_eq written, Option.eq_none_iff_forall_ne_some]
  intro read reads
  rw [Tree.mapM_eq_some_iff, List.forall₂_map_left_iff] at reads
  -- If the list is read at all, so is each report in it, with one bracket less to open.
  refine deep fun report listed => ?_
  obtain ⟨other, same⟩ := Tree.exists_of_forall₂ reads report listed
  exact (written report listed).1.fits.nests_of_read same

end

end Report

-----------------------------------------------------------------------------------------
-- Stores whose reports came in by check-ins
-----------------------------------------------------------------------------------------

/-- Something holds of all reports, the latest ones and those of the histories. -/
structure Memory.ReportsAre (holds : Report → Prop) (memory : Memory) : Prop where
  latest : ∀ id report, memory.reports.get? id = some report → holds report
  history : ∀ id, ∀ report ∈ memory.historyOf id, holds report

section

variable {holds : Report → Prop} (request : StoreRequest)

/-- What holds of all reports and of one that is filed holds of all afterwards. -/
theorem Memory.ReportsAre.onMemory {memory : Memory} (all : memory.ReportsAre holds)
    (files : ∀ report, request = .putReport report → holds report)
    : (request.onMemory memory).2.ReportsAre holds := by
  cases request with
  | putReport report =>
      have gains := memory.gains_putReport report
      refine ⟨fun id other found => ?_, fun id other among => ?_⟩
      · change (memory.putReport report).reports.get? id = some other at found
        rw [gains.latest] at found
        split at found
        · cases found
          exact files report rfl
        · exact all.latest id other found
      · change other ∈ (memory.putReport report).historyOf id at among
        rw [gains.history, List.mem_append] at among
        rcases among with earlier | added
        · exact all.history id other earlier
        · split at added
          · obtain rfl := List.mem_singleton.mp added
            exact files other rfl
          · cases added
  | deleteReport id =>
      have loses := memory.loses_deleteReport id
      refine ⟨fun other report found => ?_, all.history⟩
      change (memory.deleteReport id).reports.get? other = some report at found
      rw [loses.latest] at found
      split at found
      · cases found
      · exact all.latest other report found
  | _ => exact ⟨all.latest, all.history⟩

/-- What the cache asks the backend for changes no report, by cases on the accesses. -/
theorem Cached.reportsAre_perform {state : Cached} (all : state.backend.memory.ReportsAre holds)
    (access : Cache.Access)
    : (Cached.perform access state).2.backend.memory.ReportsAre holds := by
  cases access with
  | putKey apiKey =>
      exact Backend.keeps_write all .putKey (·.putKey apiKey) ⟨all.latest, all.history⟩
  | putRelay relay =>
      exact Backend.keeps_write all .putRelay (·.putRelay relay) ⟨all.latest, all.history⟩
  | validateKey admin key => exact Backend.keeps_read all .validateKey (·.acceptsKey key admin)
  | listRelays => exact Backend.keeps_read all .listRelays (·.relays.values)
  | getRelay host => exact Backend.keeps_read all .getRelay (·.relays.get? host)
  | remember admin key => cases admin <;> exact all
  | forget admin key => cases admin <;> exact all
  | _ => exact all

/-- What holds of all reports and of one that is filed holds of all after a request, even while the
backend fails.
-/
theorem Front.reportsAre_perform {front : Front} (all : front.memory.ReportsAre holds)
    (files : ∀ report, request = .putReport report → holds report)
    : (request.perform front).2.memory.ReportsAre holds := by
  have direct {backend : Backend} (all : backend.memory.ReportsAre holds)
      : (request.perform (.direct backend)).2.memory.ReportsAre holds := by
    obtain ⟨later, left, same | changed⟩ := request.perform_direct backend
    · rw [left]
      change later.memory.ReportsAre holds
      exact same ▸ all
    · rw [left]
      change later.memory.ReportsAre holds
      exact changed ▸ all.onMemory request files
  cases front with
  | direct backend => exact direct all
  | cached state =>
      cases known : request.operation? with
      | none =>
          rw [StoreRequest.perform_behind known]
          exact direct all
      | some operation =>
          rw [StoreRequest.perform_operation known]
          let kept (state : Cached) : Prop := state.backend.memory.ReportsAre holds
          have keeps : ∀ access state, kept state → kept (Cached.perform access state).2 :=
            fun access _ held => Cached.reportsAre_perform held access
          change kept (state.run operation).2
          exact operation.run_keeps keeps all

end

/-- A store whose reports came in by check-ins: it was started without reports, with a cache or
without one; it serves requests, at times that the clock can tell; it is visited, through its cache
or behind it, for anything but to file a report; and its backend may begin or stop to fail.
-/
inductive Front.TakesCheckIns : Front → Prop
  | plain {memory : Memory} (unreported : memory.reports = .empty) (new : memory.history = .empty)
    : TakesCheckIns (.plain memory)
  | freshlyCached {memory : Memory} (unreported : memory.reports = .empty)
    (new : memory.history = .empty)
    : TakesCheckIns (.freshlyCached memory)
  | served {front : Front} (takes : TakesCheckIns front) (context : Service.Context)
    (clock : FitsSigned context.now) (request : Http.Request)
    : TakesCheckIns (Service.handle context request front).front
  | visited {front : Front} (takes : TakesCheckIns front) (visit : Visit)
    (other : ∀ report, visit.request ≠ .putReport report)
    : TakesCheckIns (front.visit visit).2
  | disturbed {front : Front} (takes : TakesCheckIns front)
    (outages : List (StoreMethod × String))
    : TakesCheckIns (front.withBackend { front.backend with outages := outages })

/-- The contents of a store are those of its backend. -/
theorem Front.memory_withBackend (front : Front) (backend : Backend)
    : (front.withBackend backend).memory = backend.memory := by
  cases front <;> rfl

/-- All reports of a store that takes check-ins are ones that a reader makes, by induction on how it
came about.
-/
theorem Front.TakesCheckIns.asRead {front : Front} (takes : front.TakesCheckIns)
    : front.memory.ReportsAre Report.IsAsRead := by
  have starts {memory : Memory} (unreported : memory.reports = .empty)
      (new : memory.history = .empty)
      : memory.ReportsAre Report.IsAsRead := by
    refine ⟨fun id report found => ?_, fun id report among => ?_⟩
    · rw [unreported] at found
      cases found
    · rw [Memory.historyOf, new] at among
      cases among
  induction takes with
  | plain unreported new => exact starts unreported new
  | freshlyCached unreported new => exact starts unreported new
  | @served front _ context clock request ih =>
      let kept (front : Front) : Prop := front.memory.ReportsAre Report.IsAsRead
      change kept (Service.handle context request front).front
      -- Of all requests only a check-in files a report, and what it files was read from its body.
      refine Service.handle_keeps_filing ?_ context request ?_ ih
      · intro request other front all
        exact Front.reportsAre_perform request all fun report files =>
          absurd files (other report)
      · intro report brought front all
        have asRead : report.IsAsRead := Report.isAsRead_of_body brought
        refine Front.reportsAre_perform (StoreRequest.putReport _) all ?_
        intro stamped files
        cases files
        exact asRead.stamp clock _ _
  | @visited front _ visit other ih =>
      have files : ∀ report, visit.request = .putReport report → report.IsAsRead :=
        fun report same => absurd same (other report)
      cases visit with
      | through request => exact Front.reportsAre_perform request ih files
      | behind request =>
          change (front.withBackend _).memory.ReportsAre _
          rw [Front.memory_withBackend]
          have direct : (Front.direct front.backend).memory.ReportsAre Report.IsAsRead := ih
          exact Front.reportsAre_perform request direct files
  | @disturbed front _ outages ih =>
      rw [Front.memory_withBackend]
      exact ih

namespace Service

open FleetOps.Service.Action

-----------------------------------------------------------------------------------------
-- Requests for listings
-----------------------------------------------------------------------------------------

/-- The reports that a query asks for. -/
def ListQuery.reportsIn (query : ListQuery) (memory : Memory) (now : Int) : List Report :=
  let projection := Projection.ofName query.projection
  let customId := Text.trim query.customId
  if customId.isEmpty then
    memory.listReports query.skip query.limit query.window projection now
  else memory.listByCustomId customId query.window projection now

/-- The request asks for reports with all their fields: for the nodes that a query selects, or for
the history of a node.
-/
inductive AsksFor (context : Context) (request : Http.Request) (memory : Memory)
  : List Report → Prop
  | nodes {query : ListQuery} (routed : Route.ofPath? request.uri.path = some .nodes)
    (parsed : ListQuery.ofRequest request = .ok query)
    (whole : Projection.ofName query.projection = .all)
    : AsksFor context request memory (query.reportsIn memory context.now)
  | history {id : String} (names : Names request .history id)
    : AsksFor context request memory (memory.historyOf (Text.trim id))

section

variable {context : Context} {request : Http.Request} {front : Front} {reports : List Report}

/-- What the backend tells is what the contents have, and it tells it unless it fails. -/
theorem ask_read (front : Front) (method : StoreMethod) (view : Memory → List Report)
    : let told := ((ask (Front.onBackend (·.read method view))).perform front).1
      told = .ok (view front.memory) ∨ (∃ failure, told = .error failure) ∧ ¬ front.Works := by
  intro told
  cases faulty : front.backend.fault? method with
  | none =>
      refine .inl ?_
      simp only [told, perform_ask, Front.onBackend, Backend.read, Backend.call, faulty]
      rfl
  | some fault =>
      refine .inr ⟨⟨.storage fault, ?_⟩, fun works => ?_⟩
      · simp only [told, perform_ask, Front.onBackend, Backend.read, Backend.call, faulty]
        rfl
      · rw [Backend.fault?, works] at faulty
        cases faulty

/-- The response lists the reports, or the request fails, as it may if the store does not work or
accepts no administrator's key of it.
-/
def Lists (request : Http.Request) (front : Front) (reports : List Report)
    (response : Http.Response)
    : Prop :=
  response = jsonResponse 200 (reportList reports)
  ∨ 400 ≤ response.status ∧ ¬ (front.Works ∧ PresentsKey request true front)

/-- A handler that lists reports for a key lists those that the contents have. -/
theorem answerWith_lists (request : Http.Request) (front : Front) (method : StoreMethod)
    (view : Memory → List Report)
    : let listing : Action Http.Response :=
        requireKey request true >>= fun _ =>
          ask (Front.onBackend (·.read method view)) >>= fun reports =>
            pure (jsonResponse 200 (reportList reports))
      Lists request front (view front.memory) (answerWith front listing).response := by
  intro listing
  rw [answerWith_response]
  obtain ⟨checked, alike⟩ := requireKey_perform request true front
  cases passed : keyCheck request true front with
  | error failure =>
      rw [passed] at checked
      refine .inr ⟨?_, fun working => ?_⟩
      · rw [show (listing.perform front).1 = .error failure from
          congrArg Prod.fst (perform_bind_error checked _)]
        exact failureResponse_status failure
      · rw [keyCheck_accepts working.2] at passed
        cases passed
  | ok _ =>
      rw [passed] at checked
      let later := ((requireKey request true).perform front).2
      have goesOn : listing.perform front
          = (ask (Front.onBackend (·.read method view)) >>= fun reports =>
              (pure (jsonResponse 200 (reportList reports)) : Action Http.Response)).perform
            later :=
        perform_bind_ok checked _
      rw [goesOn]
      rcases ask_read later method view with told | ⟨⟨failure, fails⟩, broken⟩
      · rw [perform_bind_ok told, perform_pure, alike.memory_eq]
        exact .inl rfl
      · rw [perform_bind_error fails]
        refine .inr ⟨failureResponse_status failure, fun working => ?_⟩
        exact broken (alike.works working.1)

/-- The response to a request for nodes lists those that its query asks for. -/
theorem handle_listsNodes {query : ListQuery} (gets : request.method = "GET")
    (routed : Route.ofPath? request.uri.path = some .nodes)
    (parsed : ListQuery.ofRequest request = .ok query)
    : Lists request front (query.reportsIn front.memory context.now)
        (handle context request front).response := by
  simp only [handle, routed, answerRoute, gets, reading, answerNodes, parsed, beq_self_eq_true,
    if_true]
  unfold listNodes selectReports ListQuery.reportsIn
  dsimp only
  split
  · exact answerWith_lists request front .listReports
      (·.listReports query.skip query.limit query.window _ context.now)
  · exact answerWith_lists request front .listByCustomId
      (·.listByCustomId (Text.trim query.customId) query.window _ context.now)

/-- The response to a request for a listing is the listing, by cases on what is asked for. -/
theorem handle_lists (gets : request.method = "GET")
    (asks : AsksFor context request front.memory reports)
    : Lists request front reports (handle context request front).response := by
  cases asks with
  | @nodes query routed parsed whole => exact handle_listsNodes gets routed parsed
  | @history id names =>
      obtain ⟨piece, routed, decoded⟩ := names
      simp only [handle, routed, answerRoute, gets, reading, withPiece, decoded,
        beq_self_eq_true, if_true]
      exact answerWith_lists request front .listHistory (·.historyOf (Text.trim id))

/-- The reports that are asked for are among those of the contents, as they are there. -/
theorem AsksFor.all {memory : Memory} (asks : AsksFor context request memory reports)
    {holds : Report → Prop} (all : memory.ReportsAre holds)
    : ∀ report ∈ reports, holds report := by
  have latest {minutes : Nat} {now : Int} {keep : Report → Bool}
      : ∀ report ∈ memory.latest minutes now keep, holds report := by
    intro report listed
    obtain ⟨id, found⟩ := Table.mem_values.mp (List.mem_filter.mp listed).1
    exact all.latest id report found
  cases asks with
  | @nodes query routed parsed whole =>
      have shown {listed : List Report} : listed.map (·.project .all) = listed := List.map_id' listed
      unfold ListQuery.reportsIn
      rw [whole]
      dsimp only [Memory.listReports, Memory.listByCustomId]
      rw [shown, shown]
      split
      · intro report listed
        unfold Memory.page at listed
        split at listed
        · exact latest report (List.mem_of_mem_drop listed)
        · exact latest report (List.mem_of_mem_drop (List.mem_of_mem_take listed))
      · exact latest
  | @history id names => exact all.history (Text.trim id)

/-- Reports that came in by check-ins are listed, unless the store fails or accepts no
administrator's key. If their numbers are integers, the reader that accepted them makes the same
list in the same order of the body, as long as none of them has as many brackets open as that reader
allows: the brackets of the list are one more. If one has, the reader refuses the whole body.
-/
theorem listings_readBack (takes : front.TakesCheckIns) (gets : request.method = "GET")
    (asks : AsksFor context request front.memory reports)
    (integers : ∀ report ∈ reports, report.HasIntegers)
    : let response := (handle context request front).response
      (front.Works → PresentsKey request true front → response.status = 200)
      ∧ (response.status = 200
        → ∃ body,
            response.body = .bytes body
            ∧ ((∀ report ∈ reports, report.Nests (maxOpenBrackets - 2))
              → Report.listOfBytes? body = some reports)
            ∧ (¬ (∀ report ∈ reports, report.Nests (maxOpenBrackets - 2))
              → Report.listOfBytes? body = none)) := by
  intro response
  have written : ∀ report ∈ reports, report.IsAsRead ∧ report.HasIntegers :=
    fun report listed => ⟨asks.all takes.asRead report listed, integers report listed⟩
  have lists : Lists request front reports response := handle_lists gets asks
  rcases lists with listing | ⟨fails, broken⟩
  · rw [listing]
    refine ⟨fun _ _ => rfl, fun _ => ⟨_, rfl, ?_, ?_⟩⟩
    · exact Report.listOfBytes?_eq_some written
    · exact Report.listOfBytes?_eq_none written
  · refine ⟨fun works presents => absurd ⟨works, presents⟩ broken, fun status => ?_⟩
    rw [status] at fails
    exact absurd fails (by decide)

end

-----------------------------------------------------------------------------------------
-- A report that is nested as deep as the reader allows
-----------------------------------------------------------------------------------------

/-- Arrays in each other. -/
def nested : Nat → Json.Value
  | 0 => .null
  | depth + 1 => .array [nested depth]

/-- A nested list needs a bracket for each of its levels. -/
theorem nested_nests_iff {depth budget : Nat} : (nested depth).Nests budget ↔ depth ≤ budget := by
  induction depth generalizing budget with
  | zero => exact ⟨fun _ => Nat.zero_le budget, fun _ => .null⟩
  | succ depth ih =>
      constructor
      · intro nests
        cases nests with
        | array each => exact Nat.succ_le_succ (ih.mp (each _ List.mem_cons_self))
      · intro small
        cases budget with
        | zero => cases small
        | succ budget =>
            exact .array (List.forall_mem_singleton.mpr (ih.mpr (Nat.le_of_succ_le_succ small)))

/-- A nested list has no numbers, whatever is asked of them. -/
theorem nested_numbersAre {among : Number → Prop} (depth : Nat) : (nested depth).NumbersAre among := by
  induction depth with
  | zero => exact .null
  | succ depth ih => exact .array (List.forall_mem_singleton.mpr ih)

/-- A report with arrays in each other. -/
def nestedReport (depth : Nat) : Report :=
  { Report.blank "n1" with telemetry := Table.empty.insert "deep" (nested depth) }

/-- Zero fits. -/
theorem fitsSigned_zero : FitsSigned 0 := by decide

/-- The report with the nested list can be read if the reader has a bracket for each level. -/
theorem nestedReport_fits {depth : Nat} (small : depth ≤ 126) : (nestedReport depth).Fits 126 where
  undeclared := by
    intro name named
    obtain rfl := List.mem_singleton.mp named
    have other : "deep" ∉ Report.fieldNames := by decide
    exact other
  remotePort := fitsSigned_zero
  connectTime := fitsSigned_zero
  receivedAt := fitsSigned_zero
  nests := by
    intro value held
    obtain rfl := List.mem_singleton.mp held
    exact nested_nests_iff.mpr small

/-- The node checks in with it. -/
def nestedCheckIn (depth : Nat) : Http.Request :=
  keyRequest "POST" "/report" (nestedReport depth).toValue.render

/-- The report as it is filed. -/
def nestedReportFiled (depth : Nat) : Report := stamp (nestedReport depth) 0 "k" ""

/-- The check-in brings the report with the nested list. -/
theorem reportIn?_nestedCheckIn {depth : Nat} (small : depth ≤ 126)
    : reportIn? openContext ((nestedCheckIn depth).decoded openContext.decoders)
      = some (nestedReportFiled depth) := by
  have fits := nestedReport_fits small
  have words : (nestedReport depth).NumbersAre Number.IsWord := by
    intro value held
    obtain rfl := List.mem_singleton.mp held
    exact nested_numbersAre depth
  have sent : jsonBody? ((nestedCheckIn depth).decoded openContext.decoders)
      = Tree.ofBytes? (Utf8.encode (nestedReport depth).toValue.render) := rfl
  have read := Report.Fits.ofBytes?_toBytes fits words
  rw [reportIn?, sent]
  change ((Report.ofBytes? (nestedReport depth).toBytes).map _) = _
  rw [read]
  rfl

/-- What is in the store before that. -/
def unreportedContents : Memory := oneKeyContents true [] []

/-- The check-in with a report that is nested no deeper than the reader allows is accepted. -/
theorem nestedCheckIn_accepted {depth : Nat} (small : depth ≤ 126)
    : (handle openContext (nestedCheckIn depth) (.plain unreportedContents)).response.status
      = 201 := by
  have accepted : keyCheck (nestedCheckIn depth) false (.plain unreportedContents) = .ok () := rfl
  have named : Text.isBlankText (nestedReportFiled depth).id = false := by
    change Text.isBlankText "n1" = false
    decide
  rw [handle_checkIn rfl rfl accepted, checkInResult, reportIn?_nestedCheckIn small]
  simp only [named]
  rfl

/-- The store after the check-in. -/
def nestedFront (depth : Nat) : Front :=
  (handle openContext (nestedCheckIn depth) (.plain unreportedContents)).front

/-- The store with the nested report came about by check-ins. -/
theorem nestedFront_takesCheckIns (depth : Nat) : (nestedFront depth).TakesCheckIns :=
  .served (.plain rfl rfl) openContext fitsSigned_zero (nestedCheckIn depth)

/-- The store with the nested report is in step with its contents. -/
theorem nestedFront_inStep (depth : Nat) : (nestedFront depth).InStep :=
  (Front.InStep.plain (.seed .empty _)).handle openContext (nestedCheckIn depth)

/-- An administrator's request for all nodes. -/
def nodesRequest : Http.Request := keyRequest "GET" "/nodes" ""

/-- The request for the listing presents an administrator's key. -/
theorem nodesRequest_presentsKey {front : Front} (step : front.InStep)
    (keys : front.memory.apiKeys = unreportedContents.apiKeys)
    : PresentsKey nodesRequest true front := by
  have told := (step.perform (.validateKey "k" true)).1
  have accepts : front.memory.acceptsKey "k" true = true := by
    rw [Memory.acceptsKey, keys]
    rfl
  exact ⟨"k", rfl, told.trans (congrArg Except.ok accepts)⟩

/-- Reports that come in leave the keys as they were. -/
theorem nestedFront_apiKeys (depth : Nat)
    : (nestedFront depth).memory.apiKeys = unreportedContents.apiKeys :=
  (handle_continues openContext (nestedCheckIn depth) (Front.plain_works _)).apiKeys

/-- All that is listed afterwards is the report. -/
theorem nodesRequest_asksFor {depth : Nat} (small : depth ≤ 126)
    : AsksFor openContext nodesRequest (nestedFront depth).memory [nestedReportFiled depth] := by
  have works : (Front.plain unreportedContents).Works := Front.plain_works _
  have routed : Route.ofPath? (nestedCheckIn depth).uri.path = some .report := rfl
  obtain ⟨report, brought, -, gains⟩ :=
    checkIn_files works routed (nestedCheckIn_accepted small)
  rw [reportIn?_nestedCheckIn small] at brought
  obtain rfl := Option.some.inj brought
  have filed : (nestedFront depth).memory.reports
      = Table.empty.insert "n1" (nestedReportFiled depth) := by
    refine Table.ext fun id => ?_
    rw [Table.get?_insert]
    exact gains.latest id
  have listed : ListQuery.everything.reportsIn (nestedFront depth).memory 0
      = [nestedReportFiled depth] := by
    unfold ListQuery.reportsIn Memory.listReports Memory.listByCustomId Memory.latest
    rw [filed]
    rfl
  rw [← listed]
  exact .nodes rfl rfl rfl

/-- The nested report has all its integers. -/
theorem nestedReportFiled_hasIntegers (depth : Nat) : (nestedReportFiled depth).HasIntegers := by
  intro value held
  obtain rfl := List.mem_singleton.mp held
  exact nested_numbersAre depth

/-- A report that is nested as deep as the reader allows is accepted, and listed, and the reader
refuses the list.
-/
theorem deepReport_isNotReadBack
    : let checkedIn := handle openContext (nestedCheckIn 126) (.plain unreportedContents)
      let front := checkedIn.front
      let response := (handle openContext nodesRequest front).response
      checkedIn.response.status = 201
      ∧ front.TakesCheckIns
      ∧ front.Works
      ∧ PresentsKey nodesRequest true front
      ∧ AsksFor openContext nodesRequest front.memory [nestedReportFiled 126]
      ∧ (nestedReportFiled 126).HasIntegers
      ∧ response.status = 200
      ∧ ∃ body, response.body = .bytes body ∧ Report.listOfBytes? body = none := by
  intro checkedIn front response
  have accepted := nestedCheckIn_accepted (Nat.le_refl 126)
  have takes := nestedFront_takesCheckIns 126
  have works := (nestedFront_inStep 126).works
  have presents := nodesRequest_presentsKey (nestedFront_inStep 126) (nestedFront_apiKeys 126)
  have asks := nodesRequest_asksFor (Nat.le_refl 126)
  have integers := nestedReportFiled_hasIntegers 126
  have written : ∀ report ∈ [nestedReportFiled 126], report.IsAsRead ∧ report.HasIntegers :=
    fun report listed =>
      ⟨asks.all takes.asRead report listed, List.mem_singleton.mp listed ▸ integers⟩
  have deep : ¬ ∀ report ∈ [nestedReportFiled 126], report.Nests (maxOpenBrackets - 2) := by
    intro nests
    have fits := nests _ List.mem_cons_self _ List.mem_cons_self
    exact absurd (nested_nests_iff.mp fits) (by decide)
  have listed : response = jsonResponse 200 (reportList [nestedReportFiled 126]) := by
    rcases handle_lists rfl asks with listed | ⟨-, broken⟩
    · exact listed
    · exact absurd ⟨works, presents⟩ broken
  rw [listed]
  exact ⟨accepted, takes, works, presents, asks, integers, rfl, _, rfl,
    Report.listOfBytes?_eq_none written deep⟩

/-- A report that is nested one bracket less deep is read back. -/
theorem nestedReport_isReadBack
    : (nestedFront 125).TakesCheckIns
      ∧ AsksFor openContext nodesRequest (nestedFront 125).memory [nestedReportFiled 125]
      ∧ (handle openContext nodesRequest (nestedFront 125)).response.status = 200
      ∧ ∃ body,
          (handle openContext nodesRequest (nestedFront 125)).response.body = .bytes body
          ∧ Report.listOfBytes? body = some [nestedReportFiled 125] := by
  have takes := nestedFront_takesCheckIns 125
  have presents := nodesRequest_presentsKey (nestedFront_inStep 125) (nestedFront_apiKeys 125)
  have small : 125 ≤ 126 := by decide
  have asks := nodesRequest_asksFor small
  have integers : ∀ report ∈ [nestedReportFiled 125], report.HasIntegers :=
    List.forall_mem_singleton.mpr (nestedReportFiled_hasIntegers 125)
  have shallow : ∀ report ∈ [nestedReportFiled 125], report.Nests (maxOpenBrackets - 2) :=
    List.forall_mem_singleton.mpr (List.forall_mem_singleton.mpr
      (nested_nests_iff.mpr (Nat.le_refl 125)))
  obtain ⟨answered, readBack⟩ := listings_readBack takes rfl asks integers
  have status := answered (nestedFront_inStep 125).works presents
  obtain ⟨body, sent, reads, -⟩ := readBack status
  exact ⟨takes, asks, status, body, sent, reads shallow⟩

end Service

end FleetOps
