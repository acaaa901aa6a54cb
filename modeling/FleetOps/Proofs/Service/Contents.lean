import FleetOps.Proofs.Service.Admission
import FleetOps.Proofs.Store.Standing

/-! What requests do to the contents of a store in working order. One that fails leaves them as they
were. Of those that succeed a check-in adds a report, a removal drops a latest report, a
registration files a relay, and all others only read.
-/

namespace FleetOps

namespace Memory

variable {before after : Memory} {id : String}

/-- A report has been added: it is the latest of its node and the last of the node's history. -/
structure Gains (before : Memory) (report : Report) (after : Memory) : Prop where
  latest
    : ∀ id,
        after.reports.get? id = if id = report.id then some report else before.reports.get? id
  history
    : ∀ id,
        after.historyOf id = before.historyOf id ++ if report.id = id then [report] else []
  apiKeys : after.apiKeys = before.apiKeys
  relays : after.relays = before.relays
  sessions : after.sessions = before.sessions

/-- The latest report of a node has been dropped, and nothing else. -/
structure Loses (before : Memory) (id : String) (after : Memory) : Prop where
  latest
    : ∀ other, after.reports.get? other = if other = id then none else before.reports.get? other
  history : after.history = before.history
  apiKeys : after.apiKeys = before.apiKeys
  relays : after.relays = before.relays
  sessions : after.sessions = before.sessions

/-- A relay has been filed under its host, and nothing else. -/
structure Registers (before : Memory) (relay : Relay) (after : Memory) : Prop where
  relay
    : ∀ host,
        after.relays.get? host
          = if host = relay.host then some relay else before.relays.get? host
  reports : after.reports = before.reports
  history : after.history = before.history
  apiKeys : after.apiKeys = before.apiKeys
  sessions : after.sessions = before.sessions

/-- Who has access is as before, and every history goes on from where it was. -/
structure Continues (before after : Memory) : Prop where
  apiKeys : after.apiKeys = before.apiKeys
  sessions : after.sessions = before.sessions
  history : ∀ id, before.historyOf id <+: after.historyOf id

/-- Filing a report adds it, and nothing else. -/
theorem gains_putReport (memory : Memory) (report : Report)
    : memory.Gains report (memory.putReport report) where
  latest := fun id => memory.reports.get?_insert report.id id report
  history := historyOf_putReport memory report
  apiKeys := rfl
  relays := rfl
  sessions := rfl

/-- Deleting a report drops the latest one, and nothing else. -/
theorem loses_deleteReport (memory : Memory) (id : String)
    : memory.Loses id (memory.deleteReport id) where
  latest := by
    intro other
    by_cases same : other = id
    · simp [deleteReport, same]
    · simp [deleteReport, same, Table.get?_erase_other]
  history := rfl
  apiKeys := rfl
  relays := rfl
  sessions := rfl

/-- Filing a relay registers it, and nothing else. -/
theorem registers_putRelay (memory : Memory) (relay : Relay)
    : memory.Registers relay (memory.putRelay relay) where
  relay := fun host => memory.relays.get?_insert relay.host host relay
  reports := rfl
  history := rfl
  apiKeys := rfl
  sessions := rfl

/-- Contents continue themselves. -/
theorem Continues.refl (memory : Memory) : memory.Continues memory :=
  ⟨rfl, rfl, fun _ => List.prefix_refl _⟩

/-- What continues a continuation continues the first contents. -/
theorem Continues.trans {middle : Memory} (first : before.Continues middle)
    (second : middle.Continues after)
    : before.Continues after :=
  ⟨second.apiKeys.trans first.apiKeys, second.sessions.trans first.sessions,
    fun id => (first.history id).trans (second.history id)⟩

/-- A report that is added continues the contents. -/
theorem Gains.continues {report : Report} (gains : before.Gains report after)
    : before.Continues after :=
  ⟨gains.apiKeys, gains.sessions, fun other => gains.history other ▸ List.prefix_append _ _⟩

/-- A latest report that is dropped continues the contents, whose history is still there. -/
theorem Loses.continues (loses : before.Loses id after) : before.Continues after := by
  refine ⟨loses.apiKeys, loses.sessions, fun other => ?_⟩
  simp only [historyOf, loses.history]
  exact List.prefix_refl _

/-- A relay that is registered continues the contents. -/
theorem Registers.continues {relay : Relay} (registers : before.Registers relay after)
    : before.Continues after := by
  refine ⟨registers.apiKeys, registers.sessions, fun other => ?_⟩
  simp only [historyOf, registers.history]
  exact List.prefix_refl _

end Memory

namespace Service

-----------------------------------------------------------------------------------------
-- What actions do
-----------------------------------------------------------------------------------------

namespace Action

variable {α β : Type} {does : α → Memory → Memory → Prop} {then_ : β → Memory → Memory → Prop}

/-- On a store in working order the action either fails and leaves the contents as they were, or it
does something to them that goes with its value.
-/
def Does (does : α → Memory → Memory → Prop) (action : Action α) : Prop :=
  ∀ front : Front,
    front.Works
    → (action.perform front).2.Works
      ∧ match (action.perform front).1 with
        | .ok value => does value front.memory (action.perform front).2.memory
        | .error _ => (action.perform front).2.memory = front.memory

/-- The action leaves the contents as they were, whatever it comes to. -/
abbrev Reads (action : Action α) : Prop := action.Does fun _ before after => after = before

/-- On a store in working order the action does not fail and only reads. -/
def Finds (holds : α → Prop) (action : Action α) : Prop :=
  ∀ front : Front,
    front.Works
    → ∃ value later,
        action.perform front = (.ok value, later)
        ∧ holds value
        ∧ later.Works
        ∧ later.memory = front.memory

namespace Does

/-- A value does what leaving the contents as they are is enough for. -/
theorem pure {value : α} (h : ∀ memory, does value memory memory)
    : Does does (Pure.pure value) :=
  fun front works => ⟨works, h front.memory⟩

/-- A failure leaves the contents as they were. -/
theorem throw (failure : Failure) : Does does (throw failure : Action α) :=
  fun _ works => ⟨works, rfl⟩

/-- What leaves at most a remembered key behind only reads. -/
theorem of_alike {action : Action α}
    (alike : ∀ front : Front, front.Alike (action.perform front).2)
    : action.Reads := by
  intro front works
  have same := (alike front).memory_eq.symm
  refine ⟨(alike front).works works, ?_⟩
  split <;> exact same

/-- What follows reading does all that is done. -/
theorem afterReading {first : Action α} {next : α → Action β} (reads : first.Reads)
    (rest : ∀ value, (next value).Does then_)
    : (first >>= next).Does then_ := by
  intro front works
  obtain ⟨working, same⟩ := reads front works
  rw [perform_bind]
  generalize first.perform front = performed at working same ⊢
  obtain ⟨result, later⟩ := performed
  cases result with
  | error failure => exact ⟨working, same⟩
  | ok value =>
      have following := rest value later working
      rw [show later.memory = front.memory from same] at following
      exact following

/-- What is required is there when the action goes on. -/
theorem requiring {failure : Failure} {found : Option α} {next : α → Action β}
    (rest : ∀ value, found = some value → (next value).Does then_)
    : (Action.require failure found >>= next).Does then_ := by
  cases found with
  | none => exact throw failure
  | some value => exact rest value rfl

/-- What does not change the contents only reads when it is asked for. -/
theorem asking (request : StoreRequest)
    (reads : ∀ memory, (request.onMemory memory).2 = memory)
    : Reads (ask request.perform) := by
  intro front works
  obtain ⟨⟨answer, answered⟩, working, same⟩ := works.perform request
  rw [reads] at same
  rw [perform_ask, answered]
  exact ⟨working, same⟩

/-- A choice does what both its sides do. -/
theorem ite {left right : Action α} (condition : Bool) (holds : left.Does does)
    (fails : right.Does does)
    : (if condition then left else right).Does does := by
  cases condition with
  | true => exact holds
  | false => exact fails

/-- A check that fails first and is gone on after. -/
theorem guard {next : PUnit → Action β} (condition : Bool) (failure : Failure)
    (rest : condition = false → (next ⟨⟩).Does then_)
    : (if condition then MonadExcept.throw failure >>= next else next ⟨⟩).Does then_ := by
  cases condition with
  | true => exact throw failure
  | false => exact rest rfl

/-- A request is the last thing that may fail, so that it is all that is done. -/
theorem writing (holds : β → Prop) (request : StoreRequest)
    {next : request.Answer → Action β} (finishes : ∀ answer, (next answer).Finds holds)
    (does_ : ∀ value memory, holds value → then_ value memory (request.onMemory memory).2)
    : (ask request.perform >>= next).Does then_ := by
  intro front works
  obtain ⟨⟨answer, answered⟩, working, changed⟩ := works.perform request
  have asked : ((ask request.perform).perform front).1 = .ok answer := by
    rw [perform_ask, answered]
    rfl
  rw [perform_bind_ok asked, perform_ask]
  obtain ⟨value, later, done, held, laterWorks, same⟩ := finishes answer _ working
  rw [done]
  refine ⟨laterWorks, ?_⟩
  have after : later.memory = (request.onMemory front.memory).2 := same.trans changed
  change then_ value front.memory later.memory
  rw [after]
  exact does_ value front.memory held

end Does

namespace Finds

variable {holds : α → Prop}

/-- A value is found as it is. -/
theorem pure {value : α} (h : holds value) : Finds holds (Pure.pure value) :=
  fun front works => ⟨value, front, rfl, h, works, rfl⟩

/-- Asking the store to tell something does not fail. -/
theorem asking (request : StoreRequest) {next : request.Answer → Action α}
    (reads : ∀ memory, (request.onMemory memory).2 = memory)
    (finishes : ∀ answer, (next answer).Finds holds)
    : (ask request.perform >>= next).Finds holds := by
  intro front works
  obtain ⟨⟨answer, answered⟩, working, same⟩ := works.perform request
  rw [reads] at same
  have asked : ((ask request.perform).perform front).1 = .ok answer := by
    rw [perform_ask, answered]
    rfl
  obtain ⟨value, later, done, held, laterWorks, unchanged⟩ := finishes answer _ working
  exact ⟨value, later, (perform_bind_ok asked _).trans done, held, laterWorks,
    unchanged.trans same⟩

end Finds

end Action

-----------------------------------------------------------------------------------------
-- What the handlers do
-----------------------------------------------------------------------------------------

open FleetOps.Service.Action

/-- The report that a check-in files: the one in the body, with the marks of its receipt. -/
def reportIn? (context : Context) (request : Http.Request) : Option Report :=
  ((jsonBody? request).bind (Report.ofTree? Json.maxOpenBrackets)).map fun report =>
    stamp report context.now ((presentedKey request).getD "") (callerAddress request)

/-- The relay that a registration files: the one in the body, if it can be used. -/
def relayIn? (context : Context) (request : Http.Request) : Option Relay :=
  ((jsonBody? request).bind Relay.ofTree?).bind fun relay =>
    (validateRelay relay context.readKey).toOption

section

variable (context : Context) (request : Http.Request) (id : String)

/-- Requiring a key only reads. -/
theorem requireKey_reads (admin : Bool) : Reads (requireKey request admin) :=
  .of_alike fun front => (requireKey_perform request admin front).2

/-- Requiring a session only reads. -/
theorem requireSession_reads (now : Int) : Reads (requireSession request now) :=
  .of_alike fun front => (requireSession_perform request now front).2

/-- Identifying the caller only reads. -/
theorem identify_reads (now : Int) : Reads (identify request now) :=
  .of_alike fun front => (identify_perform request now front).2

/-- A handler that reads succeeds with the usual status. -/
abbrev Shows (action : Action Http.Response) : Prop :=
  action.Does fun response before after => response.status = 200 ∧ after = before

/-- The listing only reads. -/
theorem listNodes_shows (query : ListQuery) : Shows (listNodes context request query) := by
  unfold listNodes selectReports
  refine .afterReading (requireKey_reads request true) fun _ => ?_
  refine .afterReading (.ite _ ?_ ?_) fun reports => .pure fun memory => ⟨rfl, rfl⟩
  · exact .asking (.listReports query.skip query.limit query.window _ context.now) fun memory => rfl
  · exact .asking (.listByCustomId _ query.window _ context.now) fun memory => rfl

/-- The detail of a node only reads, as JSON and as a page. -/
theorem showNode_shows : Shows (showNode context request id) := by
  unfold showNode
  refine .guard _ _ fun _ => .ite _ ?_ ?_
  · refine .afterReading (requireKey_reads request true) fun _ => ?_
    refine .afterReading (.asking (.getReport (Text.trim id)) fun memory => rfl) fun found => ?_
    exact .requiring fun report _ => .pure fun memory => ⟨rfl, rfl⟩
  · refine .afterReading (requireSession_reads request context.now) fun _ => ?_
    refine .afterReading (.asking (.getReport (Text.trim id)) fun memory => rfl) fun found => ?_
    exact .requiring fun report _ => .pure fun memory => ⟨rfl, rfl⟩

/-- The history of a node only reads. -/
theorem showHistory_shows : Shows (showHistory request id) := by
  unfold showHistory
  refine .afterReading (requireKey_reads request true) fun _ => ?_
  refine .afterReading (.asking (.listHistory (Text.trim id)) fun memory => rfl) fun history => ?_
  exact .pure fun memory => ⟨rfl, rfl⟩

/-- Planning a command only reads. -/
theorem planFor_reads (node command : String) (credentials : Credentials)
    (readKey : PrivateKey.Reader)
    : Reads (planFor node command credentials readKey) := by
  unfold planFor
  refine .afterReading (.asking (.getReport node) fun memory => rfl) fun found => ?_
  refine .requiring fun report _ => .requiring fun port _ => ?_
  refine .afterReading (.asking (.getRelay report.relayHost) fun memory => rfl) fun known => ?_
  refine .requiring fun relay _ => ?_
  split
  · exact .throw _
  · exact .pure fun memory => rfl

/-- Preparing a command only reads. -/
theorem prepare_reads : Reads (prepare context request id) := by
  unfold prepare
  refine .guard _ _ fun _ => ?_
  refine .afterReading (identify_reads request context.now) fun caller => ?_
  refine .requiring fun form _ => ?_
  split
  · exact .throw _
  · exact .afterReading (planFor_reads _ _ _ _) fun planned => .pure fun memory => rfl

/-- A removal that succeeds drops the latest report of its node. -/
theorem forgetNode_does
    : (forgetNode request id).Does fun response before after =>
        response.status = 204 ∧ before.Loses (Text.trim id) after := by
  unfold forgetNode
  refine .afterReading (requireKey_reads request true) fun _ => ?_
  refine .afterReading (.asking (.getReport (Text.trim id)) fun memory => rfl) fun found => ?_
  refine .requiring fun report _ => ?_
  refine .writing (·.status = 204) (.deleteReport (Text.trim id)) (fun _ => .pure rfl) ?_
  exact fun response memory status => ⟨status, memory.loses_deleteReport (Text.trim id)⟩

/-- A check-in that succeeds files the report that it brings. -/
theorem checkIn_does
    : (checkIn context request).Does fun response before after =>
        response.status = 201
        ∧ ∃ report,
            reportIn? context request = some report
            ∧ Text.isBlankText report.id = false
            ∧ before.Gains report after := by
  unfold checkIn
  refine .afterReading (requireKey_reads request false) fun _ => ?_
  refine .requiring fun report brought => .guard _ _ fun named => ?_
  have stamped : reportIn? context request = some _ := congrArg (Option.map _) brought
  refine .writing (·.status = 201) (.putReport _) (fun _ => ?_) ?_
  · exact .asking .listRelays (fun memory => rfl) fun relays => .pure rfl
  · exact fun response memory status => ⟨status, _, stamped, named, memory.gains_putReport _⟩

/-- A registration that succeeds files the relay that it brings. -/
theorem registerRelay_does
    : (registerRelay context request).Does fun response before after =>
        response.status = 201
        ∧ ∃ relay, relayIn? context request = some relay ∧ before.Registers relay after := by
  unfold registerRelay
  refine .afterReading (requireKey_reads request true) fun _ => ?_
  refine .requiring fun relay brought => ?_
  split
  · exact .throw _
  next valid checked =>
    have found : relayIn? context request = some valid := by
      simp only [relayIn?, brought, Option.bind_some, checked, Except.toOption]
    refine .writing (·.status = 201) (.putRelay valid) (fun _ => .pure rfl) ?_
    exact fun response memory status => ⟨status, valid, found, memory.registers_putRelay valid⟩

end

-----------------------------------------------------------------------------------------
-- What exchanges do
-----------------------------------------------------------------------------------------

/-- The exchange fails and leaves the contents as they were, or it succeeds and does something to
them. The store stays in working order.
-/
structure Exchange.Does (before : Memory) (does : Memory → Prop) (exchange : Exchange) : Prop where
  works : exchange.front.Works
  outcome
    : 400 ≤ exchange.response.status ∧ exchange.front.memory = before
      ∨ 200 ≤ exchange.response.status
        ∧ exchange.response.status < 300
        ∧ does exchange.front.memory

/-- A probe that is served is answered with the usual status. -/
theorem measure_status {request : Http.Request} {size : String} {response : Http.Response}
    (answered : measure request size = .ok response)
    : response.status = 200 := by
  unfold measure at answered
  repeat' split at answered
  all_goals cases answered
  all_goals rfl

namespace Exchange.Does

variable {front : Front} {does : Memory → Prop} {before : Memory} {exchange : Exchange}
  {context : Context} {request : Http.Request}

/-- A fixed error leaves the contents as they were. -/
theorem failing {response : Http.Response} (works : front.Works) (fails : 400 ≤ response.status)
    : (untouched front response).Does front.memory does :=
  ⟨works, .inl ⟨fails, rfl⟩⟩

/-- What does not change the contents at all does what it does, or fails. -/
theorem of_same (works : exchange.front.Works) (same : exchange.front.memory = before)
    (status : 400 ≤ exchange.response.status ∨ exchange.response.status = 200)
    : exchange.Does before (· = before) := by
  refine ⟨works, status.imp (fun fails => ⟨fails, same⟩) fun shown => ?_⟩
  rw [shown]
  exact ⟨by decide, by decide, same⟩

/-- An exchange does what its handler does, if that succeeds with a status for success. -/
theorem answerWith {action : Action Http.Response} {status : Nat}
    {does : Memory → Memory → Prop}
    (handler
      : action.Does fun response before after => response.status = status ∧ does before after)
    (success : 200 ≤ status ∧ status < 300) (works : front.Works)
    : (Service.answerWith front action).Does front.memory (does front.memory) := by
  obtain ⟨working, done⟩ := handler front works
  unfold Service.answerWith
  generalize action.perform front = performed at working done ⊢
  obtain ⟨result, later⟩ := performed
  cases result with
  | error failure => exact ⟨working, .inl ⟨failureResponse_status failure, done⟩⟩
  | ok response =>
      obtain ⟨rfl, does_⟩ := done
      exact ⟨working, .inr ⟨success.1, success.2, does_⟩⟩

/-- Leaving out the body of a response changes nothing about the contents. -/
theorem headOnly (does_ : exchange.Does before does)
    : (Service.headOnly exchange).Does before does := by
  unfold Service.headOnly
  split
  · exact ⟨does_.works, does_.outcome⟩
  · exact does_

/-- A request that reads does what its answer does, or is refused for its method. -/
theorem reading (does_ : exchange.Does front.memory does) (works : front.Works)
    : (Service.reading request front exchange).Does front.memory does := by
  unfold Service.reading
  split
  · exact does_
  · split
    · exact does_.headOnly
    · exact failing works (by decide)

/-- A request whose path can be read does what follows, and any other fails. -/
theorem withPiece {piece : List UInt8} {next : String → Exchange} (works : front.Works)
    (rest : ∀ text, Route.pieceText? piece = some text → (next text).Does front.memory does)
    : (Service.withPiece front piece next).Does front.memory does := by
  unfold Service.withPiece
  cases named : Route.pieceText? piece with
  | none => exact failing works (by decide)
  | some text => exact rest text named

/-- Compressing a response changes nothing about the contents. -/
theorem encodedFor (does_ : exchange.Does before does)
    : ({ exchange with response := exchange.response.encodedFor request } : Exchange).Does before
        does := by
  refine ⟨does_.works, ?_⟩
  simp only [Http.Response.encodedFor]
  split <;> exact does_.outcome

/-- What an exchange does implies what follows from it. -/
theorem mono {then_ : Memory → Prop} (does_ : exchange.Does before does)
    (implies : ∀ after, does after → then_ after)
    : exchange.Does before then_ :=
  ⟨does_.works, does_.outcome.imp_right fun ⟨low, high, done⟩ => ⟨low, high, implies _ done⟩⟩

/-- The listing leaves the contents as they were, whatever it comes to. -/
theorem answerNodes (context : Context) (request : Http.Request) (works : front.Works)
    : (Service.answerNodes context request front).Does front.memory (· = front.memory) := by
  unfold Service.answerNodes
  cases ListQuery.ofRequest request with
  | error reason => exact failing works (by simp [Http.Response.plain])
  | ok query => exact answerWith (listNodes_shows context request query) (by decide) works

/-- A command changes nothing, whatever comes of it. -/
theorem answerCommand (context : Context) (request : Http.Request) (id : String)
    (works : front.Works)
    : (Service.answerCommand context request front id).Does front.memory (· = front.memory) := by
  obtain ⟨working, same⟩ := prepare_reads context request id front works
  unfold Service.answerCommand
  generalize (prepare context request id).perform front = performed at working same ⊢
  obtain ⟨result, later⟩ := performed
  cases result with
  | error failure => exact .of_same working same (.inl (failureResponse_status failure))
  | ok prepared =>
      refine .of_same working same ?_
      simp only [Prepared.response]
      split
      · exact .inl (failureResponse_status _)
      · cases prepared.caller <;> exact .inr rfl

/-- A probe leaves the contents as they were, whatever it comes to. -/
theorem measure (request : Http.Request) (size : String) (works : front.Works)
    : (match Service.measure request size with
      | .ok response => untouched front response
      | .error failure => untouched front (failureResponse failure)).Does front.memory
        (· = front.memory) := by
  cases probed : Service.measure request size with
  | ok response => exact .of_same works rfl (.inr (measure_status probed))
  | error failure => exact failing works (failureResponse_status failure)

end Exchange.Does

/-- What a request does to the contents if it succeeds, by its route and its method. -/
def SuccessChanges (context : Context) (request : Http.Request) (before after : Memory) : Prop :=
  match Route.ofPath? request.uri.path with
  | some .report =>
      request.method = "POST"
      ∧ ∃ report,
          reportIn? context (request.decoded context.decoders) = some report
          ∧ Text.isBlankText report.id = false
          ∧ before.Gains report after
  | some (.node piece) =>
      if request.method = "DELETE"
      then ∃ id, Route.pieceText? piece = some id ∧ before.Loses (Text.trim id) after
      else after = before
  | some .servers =>
      request.method = "POST"
      ∧ ∃ relay, relayIn? context request = some relay ∧ before.Registers relay after
  | _ => after = before

/-- Every request does what its route and its method say, by cases on them. -/
theorem handle_does (context : Context) (request : Http.Request) {front : Front}
    (works : front.Works)
    : (handle context request front).Does front.memory
        (SuccessChanges context request front.memory) := by
  unfold handle SuccessChanges
  cases Route.ofPath? request.uri.path with
  | none => exact .failing works (by decide)
  | some route =>
      cases route with
      | nodes =>
          exact .reading (.answerNodes context request works) works
      | node piece =>
          simp only [answerRoute, beq_iff_eq]
          split
          · refine .withPiece works fun id named => ?_
            refine .mono (.answerWith (forgetNode_does request id) (by decide) works) ?_
            exact fun after loses => ⟨id, named, loses⟩
          · refine .reading (.withPiece works fun id _ => ?_) works
            exact .answerWith (showNode_shows context request id) (by decide) works
      | history piece =>
          refine .reading (.withPiece works fun id _ => ?_) works
          exact .answerWith (showHistory_shows request id) (by decide) works
      | command piece =>
          simp only [answerRoute]
          split
          · exact .withPiece works fun id _ => .answerCommand context request id works
          · exact .failing works (by decide)
      | servers =>
          simp only [answerRoute, beq_iff_eq]
          split
          next posted =>
            have registered := registerRelay_does context request
            refine .mono (.answerWith registered (by decide) works) ?_
            exact fun after registers => ⟨posted, registers⟩
          next => exact .failing works (by decide)
      | report =>
          simp only [answerRoute, beq_iff_eq]
          split
          next posted =>
            have checked := checkIn_does context (request.decoded context.decoders)
            refine .encodedFor (.mono (.answerWith checked (by decide) works) ?_)
            exact fun after gains => ⟨posted, gains⟩
          next => exact .failing works (by decide)
      | measure size =>
          simp only [answerRoute]
          split
          · exact .withPiece works fun size _ => .measure request size works
          · exact .failing works (by decide)

/-- What every request keeps, by cases on what it does. -/
theorem handle_continues (context : Context) (request : Http.Request) {front : Front}
    (works : front.Works)
    : front.memory.Continues (handle context request front).front.memory := by
  rcases (handle_does context request works).outcome with ⟨_, same⟩ | ⟨_, _, changes⟩
  · rw [same]
    exact .refl front.memory
  · unfold SuccessChanges at changes
    split at changes
    · obtain ⟨-, report, -, -, gains⟩ := changes
      exact gains.continues
    · split at changes
      · obtain ⟨id, -, loses⟩ := changes
        exact loses.continues
      · rw [changes]
        exact .refl front.memory
    · obtain ⟨-, relay, -, registers⟩ := changes
      exact registers.continues
    · rw [changes]
      exact .refl front.memory

-----------------------------------------------------------------------------------------
-- Requests one after another
-----------------------------------------------------------------------------------------

/-- The store after it has served requests, the first one first. -/
def servedAll (front : Front) (requests : List (Context × Http.Request)) : Front :=
  requests.foldl (fun front (context, request) => (handle context request front).front) front

/-- Requests that are served one after another continue the contents, by induction over them. -/
theorem servedAll_continues (requests : List (Context × Http.Request)) {front : Front}
    (works : front.Works)
    : (servedAll front requests).Works
      ∧ front.memory.Continues (servedAll front requests).memory := by
  induction requests generalizing front with
  | nil => exact ⟨works, .refl front.memory⟩
  | cons first rest ih =>
      obtain ⟨context, request⟩ := first
      have served := handle_does context request works
      obtain ⟨working, continues⟩ := ih served.works
      exact ⟨working, (handle_continues context request works).trans continues⟩

/-- Behind a store in working order a request that fails leaves the contents as they were. One that
succeeds adds a report if it checks in, drops the latest report of a node if it removes one, files a
relay if it registers one, and changes nothing otherwise. Whatever requests follow each other, keys
and sessions stay the same, and histories only grow.
-/
theorem handle_changes {front : Front} (works : front.Works) (context : Context)
    (request : Http.Request)
    : let exchange := handle context request front
      (400 ≤ exchange.response.status ∧ exchange.front.memory = front.memory
        ∨ 200 ≤ exchange.response.status
          ∧ exchange.response.status < 300
          ∧ SuccessChanges context request front.memory exchange.front.memory)
      ∧ ∀ requests, front.memory.Continues (servedAll front requests).memory :=
  ⟨(handle_does context request works).outcome,
    fun requests => (servedAll_continues requests works).2⟩

/-- What is in a store that accepts one key. -/
def oneKeyContents (admin : Bool) (relays : List Relay) (reports : List Report) : Memory :=
  Seed.apply
    {
      apiKeys := [{ key := "k", label := "", admin := admin }]
      relays := relays
      reports := reports
      sessions := []
    }
    .empty

/-- A program makes a request with its key and with JSON text. -/
def keyRequest (method path body : String) : Http.Request :=
  {
    method := method
    uri := { path := Utf8.encode path, query := none }
    headers :=
      [
        ("authorization", Utf8.encode "token k"),
        ("content-type", Utf8.encode "application/json")
      ]
    body := .ok (Utf8.encode body)
    peer := none
  }

/-- An administrator's removal of one of two nodes succeeds, and its history is still there. -/
theorem removal_changes
    : let front := Front.freshlyCached (oneKeyContents true [] [.blank "n1", .blank "n2"])
      let exchange := handle openContext (keyRequest "DELETE" "/nodes/n1" "") front
      front.Works
      ∧ exchange.response.status = 204
      ∧ front.memory.Loses "n1" exchange.front.memory
      ∧ front.memory.historyOf "n1" <+: exchange.front.memory.historyOf "n1" := by
  intro front exchange
  have works : front.Works := Front.freshlyCached_works _
  have status : exchange.response.status = 204 := by decide +kernel
  have routed : Route.ofPath? (keyRequest "DELETE" "/nodes/n1" "").uri.path
      = some (.node (Utf8.encode "n1")) := rfl
  have named : (Route.pieceText? (Utf8.encode "n1")).map Text.trim = some "n1" := by decide +kernel
  obtain ⟨changed, continues⟩ :=
    handle_changes works openContext (keyRequest "DELETE" "/nodes/n1" "")
  rcases changed with ⟨fails, _⟩ | ⟨_, _, changes⟩
  · exact absurd (status ▸ fails) (by decide)
  · simp only [SuccessChanges, routed] at changes
    obtain ⟨id, decoded, loses⟩ := changes
    rw [decoded] at named
    rw [Option.some.inj named] at loses
    have continued := continues [(openContext, keyRequest "DELETE" "/nodes/n1" "")]
    exact ⟨works, status, loses, continued.history "n1"⟩

end Service

end FleetOps
