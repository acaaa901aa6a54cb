import FleetOps.Proofs.Service.Action
import FleetOps.Service.Router

/-! The service over two stores that answer alike. Whatever a handler does it does by asking the
store, so that the responses are the same, except that a check-in may be answered with the login
for another of the registered relays.
-/

namespace FleetOps.Service

open FleetOps.Service.Action

variable {related : Front → Front → Prop}

-----------------------------------------------------------------------------------------
-- Handlers
-----------------------------------------------------------------------------------------

/-- Requiring a key ends alike on stores that check keys alike. -/
theorem requireKey_matches {admin : Bool}
    (checks : ∀ key, (Front.validateKey key admin).Matches related) (request : Http.Request)
    : Matches related Eq (requireKey request admin) (requireKey request admin) := by
  unfold requireKey
  refine .bindSame (.require _ _) fun key => ?_
  refine .bindSame (.ask (checks key)) fun accepted => ?_
  exact .ite accepted (.pure rfl) (.throw _)

/-- Nothing that is asked of two stores tells them apart, unless a report is filed. -/
def Uniform (related : Front → Front → Prop) : Prop :=
  ∀ request : StoreRequest,
    (∀ report, request ≠ .putReport report) → request.perform.Matches related

section

variable (uniform : Uniform related)

include uniform

/-- Looking up the session ends alike. -/
theorem sessionUser_matches (request : Http.Request) (now : Int)
    : Matches related Eq (sessionUser request now) (sessionUser request now) := by
  unfold sessionUser
  cases Http.Cookie.find? request sessionCookie with
  | none => exact .pure rfl
  | some id =>
      refine .ite id.isEmpty (.pure rfl) ?_
      exact .bindSame (.ask (uniform (.getSession id) nofun)) fun session => .pure rfl

/-- Identifying a browser ends alike. -/
theorem identifyBrowser_matches (request : Http.Request) (now : Int)
    : Matches related Eq (identifyBrowser request now) (identifyBrowser request now) := by
  unfold identifyBrowser
  refine .bindSame (sessionUser_matches uniform request now) fun user => ?_
  cases user with
  | some user => exact .pure rfl
  | none => exact .ite _ (.throw _) (.throw _)

/-- Identifying the caller ends alike, by its key or else by its session. -/
theorem identify_matches (request : Http.Request) (now : Int)
    : Matches related Eq (identify request now) (identify request now) := by
  unfold identify
  cases presentedKey request with
  | none => exact identifyBrowser_matches uniform request now
  | some key =>
      refine .bindSame (.ask (uniform (.validateKey key true) nofun)) fun accepted => ?_
      exact .ite accepted (.pure rfl) (identifyBrowser_matches uniform request now)

/-- Requiring a session ends alike. -/
theorem requireSession_matches (request : Http.Request) (now : Int)
    : Matches related Eq (requireSession request now) (requireSession request now) := by
  unfold requireSession
  refine .bindSame (sessionUser_matches uniform request now) fun user => ?_
  cases user with
  | some user => exact .pure rfl
  | none => exact .throw _

/-- Selecting the reports of a listing ends alike. -/
theorem selectReports_matches (query : ListQuery) (now : Int)
    : Matches related Eq (selectReports query now) (selectReports query now) := by
  unfold selectReports
  exact .ite _ (.ask (uniform (.listReports ..) nofun)) (.ask (uniform (.listByCustomId ..) nofun))

/-- The listing ends alike. -/
theorem listNodes_matches (context : Context) (request : Http.Request) (query : ListQuery)
    : Matches related Eq (listNodes context request query)
        (listNodes context request query) := by
  unfold listNodes
  refine .bindSame (requireKey_matches (fun key => uniform (.validateKey key true) nofun) request)
    fun _ => ?_
  exact .bindSame (selectReports_matches uniform query context.now) fun reports => .pure rfl

/-- The report of a node is looked for before it is shown or planned with. -/
theorem requireReport_matches (node : String) {α : Type} (next : Report → Action α)
    (rest : ∀ report, Matches related Eq (next report) (next report))
    : Matches related Eq
        (Action.ask (Front.getReport node) >>= fun report =>
          Action.require .nodeNotFound report >>= next)
        (Action.ask (Front.getReport node) >>= fun report =>
          Action.require .nodeNotFound report >>= next) := by
  refine .bindSame (.ask (uniform (.getReport node) nofun)) fun report => ?_
  exact .bindSame (.require _ _) rest

/-- The detail of a node ends alike. -/
theorem showNode_matches (context : Context) (request : Http.Request) (id : String)
    : Matches related Eq (showNode context request id) (showNode context request id) := by
  unfold showNode
  refine .guard _ _ (.ite _ ?_ ?_)
  · refine .bindSame (requireKey_matches (fun key => uniform (.validateKey key true) nofun) request)
      fun _ => ?_
    exact requireReport_matches uniform _ _ fun report => .pure rfl
  · refine .bindSame (requireSession_matches uniform request context.now) fun _ => ?_
    exact requireReport_matches uniform _ _ fun report => .pure rfl

/-- The removal of a node ends alike. -/
theorem forgetNode_matches (request : Http.Request) (id : String)
    : Matches related Eq (forgetNode request id) (forgetNode request id) := by
  unfold forgetNode
  refine .bindSame (requireKey_matches (fun key => uniform (.validateKey key true) nofun) request)
    fun _ => ?_
  refine requireReport_matches uniform _ _ fun _ => ?_
  exact .bindSame (.ask (uniform (.deleteReport _) nofun)) fun _ => .pure rfl

/-- The history of a node ends alike. -/
theorem showHistory_matches (request : Http.Request) (id : String)
    : Matches related Eq (showHistory request id) (showHistory request id) := by
  unfold showHistory
  refine .bindSame (requireKey_matches (fun key => uniform (.validateKey key true) nofun) request)
    fun _ => ?_
  exact .bindSame (.ask (uniform (.listHistory _) nofun)) fun _ => .pure rfl

/-- The registration of a relay ends alike. -/
theorem registerRelay_matches (context : Context) (request : Http.Request)
    : Matches related Eq (registerRelay context request) (registerRelay context request) := by
  unfold registerRelay
  refine .bindSame (requireKey_matches (fun key => uniform (.validateKey key true) nofun) request)
    fun _ => ?_
  refine .bindSame (.require _ _) fun relay => ?_
  cases validateRelay relay context.readKey with
  | error failure => exact .throw failure
  | ok valid => exact .bindSame (.ask (uniform (.putRelay valid) nofun)) fun _ => .pure rfl

/-- Planning a command ends alike, however keys are read. -/
theorem planFor_matches (node command : String) (credentials : Credentials)
    (readKey : PrivateKey.Reader)
    : Matches related Eq (planFor node command credentials readKey)
        (planFor node command credentials readKey) := by
  unfold planFor
  refine requireReport_matches uniform _ _ fun report => ?_
  refine .bindSame (.require _ _) fun port => ?_
  refine .bindSame (.ask (uniform (.getRelay _) nofun)) fun found => ?_
  refine .bindSame (.require _ _) fun relay => ?_
  cases Credentials.build relay.user relay.key relay.password readKey with
  | error failure => exact .throw _
  | ok credentials => exact .pure rfl

/-- Preparing a command ends alike. -/
theorem prepare_matches (context : Context) (request : Http.Request) (id : String)
    : Matches related Eq (prepare context request id) (prepare context request id) := by
  unfold prepare
  refine .guard _ _ ?_
  refine .bindSame (identify_matches uniform request context.now) fun caller => ?_
  refine .bindSame (.require _ _) fun form => ?_
  cases CommandRequest.ofForm form context.commandTimeout context.readKey with
  | error failure => exact .throw failure
  | ok command =>
      exact .bindSame (planFor_matches uniform _ _ _ _) fun planned => .pure rfl

end

/-- A check-in is answered with the login for the registered relay that the draw picks. -/
theorem checkIn_matches {relays : List Relay}
    (checks : ∀ key, (Front.validateKey key false).Matches related)
    (puts : ∀ report, (Front.putReport report).Matches related)
    (lists : Front.listRelays.Matches related)
    (registered : ∀ front other, related front other → (Front.listRelays front).1 = .ok relays)
    (context : Context) (draw : Nat) (request : Http.Request)
    : Matches related
        (fun left right =>
          left = jsonResponse 201 (pickLogin relays context.draw).toValue
          ∧ right = jsonResponse 201 (pickLogin relays draw).toValue)
        (checkIn context request) (checkIn { context with draw := draw } request) := by
  have listed : Matches related (fun left right => left = relays ∧ right = relays)
      (Action.ask Front.listRelays) (Action.ask Front.listRelays) := by
    intro front other stores
    obtain ⟨answers, later⟩ := lists front other stores
    have known := registered front other stores
    refine ⟨?_, later⟩
    change ResultsMatch _ ((Front.listRelays front).1.mapError Failure.storage)
      ((Front.listRelays other).1.mapError Failure.storage)
    rw [← answers, known]
    exact .done ⟨rfl, rfl⟩
  unfold checkIn
  refine .bindSame (requireKey_matches checks request) fun _ => ?_
  refine .bindSame (.require _ _) fun report => ?_
  refine .guard _ _ ?_
  refine .bindSame (.ask (puts _)) fun _ => ?_
  refine listed.bind fun left right same => ?_
  obtain ⟨rfl, rfl⟩ := same
  exact .pure ⟨rfl, rfl⟩

-----------------------------------------------------------------------------------------
-- Exchanges
-----------------------------------------------------------------------------------------

/-- Two exchanges with matching responses, the same run, and related stores afterwards. -/
structure ExchangesMatch (related : Front → Front → Prop)
    (same : Http.Response → Http.Response → Prop) (left right : Exchange) : Prop where
  response : same left.response right.response
  run : left.run = right.run
  front : related left.front right.front

namespace ExchangesMatch

variable {same : Http.Response → Http.Response → Prop} {left right : Exchange}
  {front other : Front}

/-- A fixed response matches. -/
theorem untouched (stores : related front other) (response : Http.Response)
    : ExchangesMatch related Eq (Service.untouched front response)
        (Service.untouched other response) :=
  ⟨rfl, rfl, stores⟩

/-- Responses of matching actions are related in any way that relates each failure to itself. -/
theorem answering {wide : Http.Response → Http.Response → Prop}
    {action following : Action Http.Response} (stores : related front other)
    (matching : Matches related same action following)
    (failing : ∀ failure, wide (failureResponse failure) (failureResponse failure))
    (widens : ∀ left right, same left right → wide left right)
    : ExchangesMatch related wide (Service.answerWith front action)
        (Service.answerWith other following) := by
  have performed := matching front other stores
  unfold Service.answerWith
  generalize action.perform front = one at performed ⊢
  generalize following.perform other = another at performed ⊢
  obtain ⟨result, store⟩ := one
  obtain ⟨otherResult, otherStore⟩ := another
  obtain ⟨results, later⟩ := performed
  cases results with
  | failed failure => exact ⟨failing failure, rfl, later⟩
  | done matching => exact ⟨widens _ _ matching, rfl, later⟩

/-- Exchanges match if their handlers end alike. -/
theorem answerWith {action following : Action Http.Response} (stores : related front other)
    (matching : Matches related Eq action following)
    : ExchangesMatch related Eq (Service.answerWith front action)
        (Service.answerWith other following) :=
  answering stores matching (fun _ => rfl) fun _ _ same => same

/-- Matching exchanges match without their bodies. -/
theorem headOnly (exchanges : ExchangesMatch related Eq left right)
    : ExchangesMatch related Eq (Service.headOnly left) (Service.headOnly right) := by
  obtain ⟨response, run, stores⟩ := exchanges
  simp only [Service.headOnly, response]
  split
  · exact ⟨rfl, run, stores⟩
  · exact ⟨response, run, stores⟩

/-- Requests that read match if their answers do. -/
theorem reading (stores : related front other) (request : Http.Request)
    (exchanges : ExchangesMatch related Eq left right)
    : ExchangesMatch related Eq (Service.reading request front left)
        (Service.reading request other right) := by
  unfold Service.reading
  split
  · exact exchanges
  · split
    · exact exchanges.headOnly
    · exact untouched stores noMethod

/-- Requests with a piece of the path match if what follows does. -/
theorem withPiece (stores : related front other) (piece : List UInt8)
    {next following : String → Exchange}
    (rest : ∀ text, ExchangesMatch related Eq (next text) (following text))
    : ExchangesMatch related Eq (Service.withPiece front piece next)
        (Service.withPiece other piece following) := by
  unfold Service.withPiece
  split
  · exact rest _
  · exact untouched stores badPath

end ExchangesMatch

section

variable (uniform : Uniform related)
  {front other : Front} (stores : related front other) (context : Context) (draw : Nat)
  (request : Http.Request)

include uniform stores

/-- Commands match, whatever the draws are. -/
theorem answerCommand_matches (id : String)
    : ExchangesMatch related Eq (answerCommand context request front id)
        (answerCommand { context with draw := draw } request other id) := by
  have performed := prepare_matches uniform context request id front other stores
  have undrawn : prepare { context with draw := draw } request id = prepare context request id :=
    rfl
  unfold answerCommand
  rw [undrawn]
  generalize (prepare context request id).perform front = one at performed ⊢
  generalize (prepare context request id).perform other = another at performed ⊢
  obtain ⟨result, store⟩ := one
  obtain ⟨otherResult, otherStore⟩ := another
  obtain ⟨results, later⟩ := performed
  cases results with
  | failed failure => exact ⟨rfl, rfl, later⟩
  | done same =>
      subst same
      exact ⟨rfl, rfl, later⟩

/-- Listings match, whatever the draws are. -/
theorem answerNodes_matches
    : ExchangesMatch related Eq (answerNodes context request front)
        (answerNodes { context with draw := draw } request other) := by
  unfold answerNodes
  split
  next => exact .untouched stores _
  next query _ =>
    exact .answerWith stores (listNodes_matches uniform context request query)

/-- Every request but a check-in is answered alike, by cases on the routes. -/
theorem answerRoute_matches {route : Route}
    (elsewhere : route = .report → request.method ≠ "POST")
    : ExchangesMatch related Eq (answerRoute context request front route)
        (answerRoute { context with draw := draw } request other route) := by
  cases route with
  | nodes => exact .reading stores request (answerNodes_matches uniform stores context draw request)
  | node id =>
      simp only [answerRoute]
      split
      · exact .withPiece stores id fun text =>
          .answerWith stores (forgetNode_matches uniform request text)
      · exact .reading stores request (.withPiece stores id fun text =>
          .answerWith stores (showNode_matches uniform context request text))
  | history id =>
      exact .reading stores request (.withPiece stores id fun text =>
        .answerWith stores (showHistory_matches uniform request text))
  | command id =>
      simp only [answerRoute]
      split
      · exact .withPiece stores id fun text =>
          answerCommand_matches uniform stores context draw request text
      · exact .untouched stores noMethod
  | servers =>
      simp only [answerRoute]
      split
      · exact .answerWith stores (registerRelay_matches uniform context request)
      · exact .untouched stores noMethod
  | report =>
      have otherMethod : (request.method == "POST") = false := by simpa using elsewhere rfl
      simp only [answerRoute, otherMethod, Bool.false_eq_true, if_false]
      exact .untouched stores noMethod
  | measure size =>
      simp only [answerRoute]
      split
      · refine .withPiece stores size fun text => ?_
        split <;> exact .untouched stores _
      · exact .untouched stores noMethod

end

-----------------------------------------------------------------------------------------
-- Twin services
-----------------------------------------------------------------------------------------

/-- Two responses are the same, or each gives out the login for one of the registered relays. -/
def SameButPick (relays : List Relay) (request : Http.Request) (left right : Http.Response)
    : Prop :=
  left = right
  ∨ ∃ one ∈ relays, ∃ another ∈ relays,
      left = (jsonResponse 201 one.login.toValue).encodedFor request
      ∧ right = (jsonResponse 201 another.login.toValue).encodedFor request

/-- Two draws pick the login for registered relays, unless there are none. -/
theorem pickLogin_sameButPick (relays : List Relay) (request : Http.Request) (draw other : Nat)
    : SameButPick relays request
        ((jsonResponse 201 (pickLogin relays draw).toValue).encodedFor request)
        ((jsonResponse 201 (pickLogin relays other).toValue).encodedFor request) := by
  cases relays with
  | nil => exact .inl rfl
  | cons first rest =>
      have picks : ∀ draw, ∃ relay ∈ first :: rest,
          pickLogin (first :: rest) draw = relay.login := by
        intro draw
        have inside : draw % (first :: rest).length < (first :: rest).length :=
          Nat.mod_lt _ (Nat.succ_pos _)
        refine ⟨(first :: rest)[draw % (first :: rest).length], List.getElem_mem inside, ?_⟩
        rw [pickLogin, List.getElem?_eq_getElem inside]
      obtain ⟨one, member, picked⟩ := picks draw
      obtain ⟨another, otherMember, otherPicked⟩ := picks other
      exact .inr ⟨one, member, another, otherMember, by rw [picked], by rw [otherPicked]⟩

/-- The stores are twins with some contents. -/
def AreTwins (cached plain : Front) : Prop := ∃ memory, Twins cached plain memory

/-- The stores are twins whose contents have given relays. -/
def AreTwinsOver (relays : List Relay) (cached plain : Front) : Prop :=
  ∃ memory, Twins cached plain memory ∧ memory.relays.values = relays

/-- What two services with their own draws make of a request. -/
structure Agree (relays : List Relay) (context : Context) (draw : Nat) (request : Http.Request)
    (left right : Exchange) : Prop where
  run : left.run = right.run
  response : SameButPick relays request left.response right.response
  sameDraw : draw = context.draw → left.response = right.response
  front : AreTwins left.front right.front

/-- Twins whose exchanges match agree, whatever the draws are. -/
theorem ExchangesMatch.agree {left right : Exchange} {relays : List Relay} {context : Context}
    {draw : Nat} {request : Http.Request} (matching : ExchangesMatch AreTwins Eq left right)
    : Agree relays context draw request left right where
  run := matching.run
  response := .inl matching.response
  sameDraw := fun _ => matching.response
  front := matching.front

/-- Every request to the store leaves twins that are twins. -/
theorem areTwins_uniform : Uniform AreTwins := by
  intro request _ cached plain stores
  obtain ⟨memory, twins⟩ := stores
  obtain ⟨answer, same, later⟩ := twins.perform request
  exact ⟨answer.trans same.symm, _, later⟩

/-- Requests that leave the relays alone leave twins with the same relays. -/
theorem areTwinsOver_matches {relays : List Relay} (request : StoreRequest)
    (keeps : ∀ memory, (request.onMemory memory).2.relays = memory.relays)
    : request.perform.Matches (AreTwinsOver relays) := by
  intro cached plain stores
  obtain ⟨memory, twins, registered⟩ := stores
  obtain ⟨answer, same, later⟩ := twins.perform request
  exact ⟨answer.trans same.symm, _, later, by rw [keeps, registered]⟩

/-- Twins agree on a check-in up to the relay that is picked. -/
theorem checkIn_agree {cached plain : Front} {relays : List Relay}
    (stores : AreTwinsOver relays cached plain) (context : Context) (draw : Nat)
    (request : Http.Request) (posted : (request.method == "POST") = true)
    : Agree relays context draw request (answerRoute context request cached .report)
        (answerRoute { context with draw := draw } request plain .report) := by
  have registered : ∀ cached plain,
      AreTwinsOver relays cached plain → (Front.listRelays cached).1 = .ok relays := by
    intro cached plain stores
    obtain ⟨memory, twins, registered⟩ := stores
    exact registered ▸ (twins.perform .listRelays).1
  have matching := checkIn_matches
    (fun key => areTwinsOver_matches (.validateKey key false) fun _ => rfl)
    (fun report => areTwinsOver_matches (.putReport report) fun _ => rfl)
    (areTwinsOver_matches .listRelays fun _ => rfl)
    registered context draw (request.decoded context.decoders)
  have exchanged : ExchangesMatch (AreTwinsOver relays)
      (fun left right =>
        SameButPick relays request (left.encodedFor request) (right.encodedFor request)
        ∧ (draw = context.draw → left = right))
      (answerWith cached (checkIn context (request.decoded context.decoders)))
      (answerWith plain
        (checkIn { context with draw := draw } (request.decoded context.decoders))) := by
    refine .answering stores matching (fun failure => ⟨.inl rfl, fun _ => rfl⟩) ?_
    intro left right picked
    obtain ⟨rfl, rfl⟩ := picked
    exact ⟨pickLogin_sameButPick relays request context.draw draw, fun same => by rw [same]⟩
  obtain ⟨response, run, memory, twins, _⟩ := exchanged
  simp only [answerRoute, posted, if_true]
  exact {
    run := run
    response := response.1
    sameDraw := fun same => congrArg (·.encodedFor request) (response.2 same)
    front := ⟨memory, twins⟩
  }

/-- Twins agree on every request, by cases on its route. -/
theorem handle_agree {cached plain : Front} {memory : Memory}
    (twins : Twins cached plain memory) (context : Context) (draw : Nat) (request : Http.Request)
    : Agree memory.relays.values context draw request (handle context request cached)
        (handle { context with draw := draw } request plain) := by
  unfold handle
  cases routed : Route.ofPath? request.uri.path with
  | none =>
      have stores : AreTwins cached plain := ⟨memory, twins⟩
      exact (ExchangesMatch.untouched stores noRoute).agree
  | some route =>
      by_cases checksIn : route = .report ∧ (request.method == "POST") = true
      · obtain ⟨rfl, posted⟩ := checksIn
        exact checkIn_agree ⟨memory, twins, rfl⟩ context draw request posted
      · refine (answerRoute_matches areTwins_uniform ⟨memory, twins⟩ context draw request
          fun report posted => checksIn ⟨report, ?_⟩).agree
        rw [posted, beq_self_eq_true]

/-- A request as two services get it, each with a draw of its own. -/
structure Hit where
  context : Context
  request : Http.Request
  otherDraw : Nat

namespace Hit

/-- What the first service makes of it. -/
def handle (hit : Hit) (front : Front) : Exchange :=
  Service.handle hit.context hit.request front

/-- What the second service makes of it. -/
def handleOther (hit : Hit) (front : Front) : Exchange :=
  Service.handle { hit.context with draw := hit.otherDraw } hit.request front

/-- The store of the first service after some requests. -/
def storeAfter (front : Front) (hits : List Hit) : Front :=
  hits.foldl (fun front hit => (hit.handle front).front) front

/-- The store of the second service after some requests. -/
def otherStoreAfter (front : Front) (hits : List Hit) : Front :=
  hits.foldl (fun front hit => (hit.handleOther front).front) front

/-- Twins stay twins over every run of requests, by induction over it. -/
theorem storesAfter_twins {cached plain : Front} {memory : Memory}
    (twins : Twins cached plain memory) (hits : List Hit)
    : AreTwins (storeAfter cached hits) (otherStoreAfter plain hits) := by
  induction hits generalizing cached plain memory with
  | nil => exact ⟨memory, twins⟩
  | cons hit rest ih =>
      obtain ⟨later, stillTwins⟩ :=
        (handle_agree twins hit.context hit.otherDraw hit.request).front
      exact ih stillTwins

end Hit

/-- A store with a cache refines the store without one. Over every run of requests to the store
both answer alike, with lists of keys and of relays that name nothing twice, and keep the same
contents. Over every run of requests to the service they respond alike, up to the registered
relay that a check-in picks, and run the same commands.
-/
theorem cached_refines_plain {memory : Memory} (filed : memory.Filed)
    : (∀ (before : List StoreRequest) (request : StoreRequest),
        let cached := (Front.freshlyCached memory).after (before.map .through)
        let plain := (Front.plain memory).after (before.map .through)
        (∃ answer,
          (request.perform cached).1 = .ok answer ∧ (request.perform plain).1 = .ok answer)
        ∧ cached.memory = plain.memory
        ∧ (∃ keys, (Front.listKeys cached).1 = .ok keys ∧ keys.Nodup)
        ∧ ∃ relays, (Front.listRelays cached).1 = .ok relays ∧ relays.Nodup)
      ∧ ∀ (before : List Hit) (hit : Hit),
        let cached := Hit.storeAfter (Front.freshlyCached memory) before
        let plain := Hit.otherStoreAfter (Front.plain memory) before
        (hit.handle cached).run = (hit.handleOther plain).run
        ∧ SameButPick plain.memory.relays.values hit.request (hit.handle cached).response
            (hit.handleOther plain).response
        ∧ (hit.otherDraw = hit.context.draw
          → (hit.handle cached).response = (hit.handleOther plain).response)
        ∧ cached.memory = plain.memory := by
  constructor
  · intro before request cached plain
    obtain ⟨contents, twins⟩ := (Twins.fresh filed).after before
    obtain ⟨answer, same, _⟩ := twins.perform request
    refine ⟨⟨_, answer, same⟩, twins.memory_eq, ?_, ?_⟩
    · exact ⟨_, (twins.perform .listKeys).1, twins.filed.apiKeys.values_nodup⟩
    · exact ⟨_, (twins.perform .listRelays).1, twins.filed.relays.values_nodup⟩
  · intro before hit cached plain
    obtain ⟨contents, twins⟩ := Hit.storesAfter_twins (Twins.fresh filed) before
    have agree := handle_agree twins hit.context hit.otherDraw hit.request
    rw [← twins.plain.memory_eq] at agree
    exact ⟨agree.run, agree.response, agree.sameDraw, twins.memory_eq⟩

/-- What a store may be started from: an administrator's key and a relay. -/
def startingSeed : Seed :=
  {
    apiKeys := [{ key := "k", label := "ops", admin := true }]
    relays := [relayFor "hub" "fleet"]
    reports := []
    sessions := []
  }

/-- An administrator's key that was accepted and then put without that right is refused by a
store with a cache, as it is by one without.
-/
theorem demoted_key_refused
    : let memory := startingSeed.apply .empty
      let before : List StoreRequest :=
        [.validateKey "k" true, .putKey { key := "k", label := "ops", admin := false }]
      memory.Filed
      ∧ ((StoreRequest.validateKey "k" true).perform
            ((Front.freshlyCached memory).after (before.map .through))).1
          = .ok false := by
  intro memory before
  have filed : memory.Filed := Memory.Filed.empty.seed startingSeed
  obtain ⟨⟨answer, cached, plain⟩, _⟩ :=
    (cached_refines_plain filed).1 before (.validateKey "k" true)
  have refused : ((StoreRequest.validateKey "k" true).perform
      ((Front.plain memory).after (before.map .through))).1 = .ok false := rfl
  exact ⟨filed, cached.trans (plain.symm.trans refused)⟩

end FleetOps.Service
