import FleetOps.Proofs.Service.CommandChecks
import FleetOps.Proofs.Store.SameAccess

/-! What the routes ask of their callers, and what becomes of callers that have not got it: they are
turned away with a response that only the request and the check of their access decide.
-/

namespace FleetOps.Service

open FleetOps.Service.Action

-----------------------------------------------------------------------------------------
-- What a caller has
-----------------------------------------------------------------------------------------

/-- The request presents a key that the store accepts, if asked as an administrator's. -/
def PresentsKey (request : Http.Request) (admin : Bool) (front : Front) : Prop :=
  ∃ key, presentedKey request = some key ∧ (Front.validateKey key admin front).1 = .ok true

/-- The session of the request's cookie has a user logged in. -/
def HasSession (request : Http.Request) (now : Int) (front : Front) : Prop :=
  ∃ user, userLoggedIn request now front = .ok (some user)

/-- What a route may ask for. -/
inductive Demand where
  | key (admin : Bool)
  | session
  | adminKeyOrSession

/-- What the check for an accepted key comes to. -/
def keyCheck (request : Http.Request) (admin : Bool) (front : Front) : Except Failure Unit :=
  match presentedKey request with
  | none => .error .unauthorized
  | some key =>
      match (Front.validateKey key admin front).1 with
      | .error fault => .error (.storage fault)
      | .ok true => .ok ()
      | .ok false => .error .unauthorized

/-- What the check for a session comes to. -/
def sessionCheck (request : Http.Request) (now : Int) (front : Front) : Except Failure Unit :=
  match userLoggedIn request now front with
  | .error fault => .error (.storage fault)
  | .ok none => .error .forbidden
  | .ok (some _) => .ok ()

namespace Demand

/-- Whether a request has what is asked for. -/
def IsMet (request : Http.Request) (now : Int) (front : Front) : Demand → Prop
  | key admin => PresentsKey request admin front
  | session => HasSession request now front
  | adminKeyOrSession => PresentsKey request true front ∨ HasSession request now front

/-- What the check of a request comes to. -/
def check (request : Http.Request) (now : Int) (front : Front) : Demand → Except Failure Unit
  | key admin => keyCheck request admin front
  | session => sessionCheck request now front
  | adminKeyOrSession => (callerOf request now front).map fun _ => ()

end Demand

/-- Whether a request asks to read, with the body of the response or without it. -/
def asksToRead (request : Http.Request) : Bool :=
  request.method == "GET" || request.method == "HEAD"

/-- What a route asks for in the method of a request. It asks for nothing if it is open to everyone
or does not have the method.
-/
def Route.demand? (request : Http.Request) : Route → Option Demand
  | nodes | history _ => if asksToRead request then some (.key true) else none
  | node _ =>
      if request.method == "DELETE" then some (.key true)
      else if asksToRead request then some (if wantsJson request then .key true else .session)
      else none
  | command _ => if request.method == "POST" then some .adminKeyOrSession else none
  | servers => if request.method == "POST" then some (.key true) else none
  | report => if request.method == "POST" then some (.key false) else none
  | measure _ => none

section

variable {request : Http.Request} {now : Int} {admin : Bool} {front : Front}

/-- Without a key that is accepted the check fails. -/
theorem keyCheck_refuses (without : ¬ PresentsKey request admin front)
    : ∃ failure, keyCheck request admin front = .error failure := by
  unfold keyCheck
  cases presented : presentedKey request with
  | none => exact ⟨_, rfl⟩
  | some key =>
      simp only
      rcases answered : (Front.validateKey key admin front).1 with fault | accepted
      · exact ⟨_, rfl⟩
      · cases accepted with
        | true => exact absurd ⟨key, presented, answered⟩ without
        | false => exact ⟨_, rfl⟩

/-- With a key that is accepted the check passes. -/
theorem keyCheck_accepts (presents : PresentsKey request admin front)
    : keyCheck request admin front = .ok () := by
  obtain ⟨key, presented, accepted⟩ := presents
  simp only [keyCheck, presented, accepted]

/-- Without a session the check fails. -/
theorem sessionCheck_refuses (without : ¬ HasSession request now front)
    : ∃ failure, sessionCheck request now front = .error failure := by
  unfold sessionCheck
  rcases logged : userLoggedIn request now front with fault | user
  · exact ⟨_, rfl⟩
  · cases user with
    | none => exact ⟨_, rfl⟩
    | some user => exact absurd ⟨user, logged⟩ without

/-- With a session the check passes. -/
theorem sessionCheck_accepts (has : HasSession request now front)
    : sessionCheck request now front = .ok () := by
  obtain ⟨user, logged⟩ := has
  simp only [sessionCheck, logged]

/-- A check succeeds for what it asks for. -/
theorem isOk_iff {asked : Prop} {checked : Except Failure Unit}
    (accepts : asked → checked = .ok ()) (refuses : ¬ asked → ∃ failure, checked = .error failure)
    : checked.isOk = true ↔ asked := by
  constructor
  · intro passed
    by_contra without
    obtain ⟨failure, refused⟩ := refuses without
    rw [refused] at passed
    cases passed
  · intro has
    rw [accepts has]
    rfl

instance : Decidable (PresentsKey request admin front) :=
  decidable_of_iff ((keyCheck request admin front).isOk = true)
    (isOk_iff keyCheck_accepts keyCheck_refuses)

instance : Decidable (HasSession request now front) :=
  decidable_of_iff ((sessionCheck request now front).isOk = true)
    (isOk_iff sessionCheck_accepts sessionCheck_refuses)

instance : {demand : Demand} → Decidable (demand.IsMet request now front)
  | .key admin => inferInstanceAs (Decidable (PresentsKey request admin front))
  | .session => inferInstanceAs (Decidable (HasSession request now front))
  | .adminKeyOrSession =>
      inferInstanceAs (Decidable (PresentsKey request true front ∨ HasSession request now front))

/-- Who has neither an administrator's key nor a session is no caller. -/
theorem callerOf_refuses (keyless : ¬ PresentsKey request true front)
    (without : ¬ HasSession request now front)
    : ∃ failure, callerOf request now front = .error failure := by
  have browser : ∃ failure, browserOf request now front = .error failure := by
    unfold browserOf
    rcases logged : userLoggedIn request now front with fault | user
    · exact ⟨_, rfl⟩
    · cases user with
      | none => exact ⟨_, rfl⟩
      | some user => exact absurd ⟨user, logged⟩ without
  unfold callerOf presentsAdminKey
  cases presented : presentedKey request with
  | none => exact browser
  | some key =>
      simp only
      rcases answered : (Front.validateKey key true front).1 with fault | accepted
      · exact ⟨_, rfl⟩
      · cases accepted with
        | true => exact absurd ⟨key, presented, answered⟩ keyless
        | false => exact browser

/-- Whoever has not got what is asked for fails the check, by cases on what is asked. -/
theorem Demand.check_refuses {demand : Demand} (without : ¬ demand.IsMet request now front)
    : ∃ failure, demand.check request now front = .error failure := by
  cases demand with
  | key admin => exact keyCheck_refuses without
  | session => exact sessionCheck_refuses without
  | adminKeyOrSession =>
      obtain ⟨failure, refused⟩ :=
        callerOf_refuses (fun has => without (.inl has)) fun has => without (.inr has)
      exact ⟨failure, by rw [check, refused]; rfl⟩

end

-----------------------------------------------------------------------------------------
-- What becomes of callers that fail the check
-----------------------------------------------------------------------------------------

/-- Stores with the same access accept the same keys. -/
theorem keyCheck_sameAccess {front other : Front} (same : front.SameAccess other)
    (request : Http.Request) (admin : Bool)
    : keyCheck request admin front = keyCheck request admin other := by
  unfold keyCheck
  simp only [same.keys]

/-- Stores with the same access know the same sessions. -/
theorem userLoggedIn_sameAccess {front other : Front} (same : front.SameAccess other)
    (request : Http.Request) (now : Int)
    : userLoggedIn request now front = userLoggedIn request now other := by
  unfold userLoggedIn
  simp only [same.sessions]

/-- Stores that agree on who has access check alike. -/
theorem Demand.check_sameAccess {front other : Front} (same : front.SameAccess other)
    (demand : Demand) (request : Http.Request) (now : Int)
    : demand.check request now front = demand.check request now other := by
  have logged := userLoggedIn_sameAccess same request now
  cases demand with
  | key admin => exact keyCheck_sameAccess same request admin
  | session => simp only [check, sessionCheck, logged]
  | adminKeyOrSession =>
      simp only [check, callerOf, presentsAdminKey, browserOf, logged, same.keys]

/-- The action fails, and leaves at most a remembered key behind. -/
structure Fails {α : Type} (failure : Failure) (action : Action α) (front : Front) : Prop where
  result : (action.perform front).1 = .error failure
  front : front.Alike (action.perform front).2

namespace Fails

variable {α β : Type} {failure : Failure} {front : Front}

/-- Throwing a failure fails with it, and leaves the store as it was. -/
theorem throw (failure : Failure) (front : Front)
    : Fails failure (throw failure : Action α) front :=
  ⟨rfl, .refl front⟩

/-- An action that begins with one that fails does nothing else. -/
theorem bind {first : Action α} (fails : Fails failure first front) (next : α → Action β)
    : Fails failure (first >>= next) front := by
  have performed := perform_bind_error fails.result next
  exact ⟨by rw [performed], by rw [performed]; exact fails.front⟩

/-- An action whose result is a failure fails with it. -/
theorem of_perform {action : Action α} {result : Except Failure α}
    (performed : (action.perform front).1 = result ∧ front.Alike (action.perform front).2)
    (failed : result = .error failure)
    : Fails failure action front :=
  ⟨performed.1.trans failed, performed.2⟩

end Fails

section

variable (request : Http.Request) (admin : Bool) (now : Int) (front : Front)

/-- Requiring a key comes to what its check does, and leaves at most a remembered key behind. -/
theorem requireKey_perform
    : ((requireKey request admin).perform front).1 = keyCheck request admin front
      ∧ front.Alike ((requireKey request admin).perform front).2 := by
  unfold requireKey keyCheck
  cases presentedKey request with
  | none => exact ⟨rfl, .refl front⟩
  | some key =>
      have checked := front.alike_validateKey key admin
      rw [perform_bind, perform_require]
      simp only [perform_bind, perform_ask]
      rcases (Front.validateKey key admin front).1 with fault | accepted
      · exact ⟨rfl, checked⟩
      · cases accepted <;> exact ⟨rfl, checked⟩

/-- Requiring a session comes to what its check does, and leaves the store alike. -/
theorem requireSession_perform
    : ((requireSession request now).perform front).1 = sessionCheck request now front
      ∧ front.Alike ((requireSession request now).perform front).2 := by
  obtain ⟨told, later⟩ := sessionUser_perform request now front
  unfold requireSession sessionCheck
  generalize userLoggedIn request now front = logged at told ⊢
  rcases logged with fault | user
  · rw [Except.mapError] at told
    rw [perform_bind_error told]
    exact ⟨rfl, later⟩
  · rw [Except.mapError] at told
    rw [perform_bind_ok told]
    cases user <;> exact ⟨rfl, later⟩

end

/-- Requiring a key that is refused fails. -/
theorem requireKey_fails {request : Http.Request} {admin : Bool} {front : Front}
    {failure : Failure} (refused : keyCheck request admin front = .error failure)
    : Fails failure (requireKey request admin) front :=
  .of_perform (requireKey_perform request admin front) refused

/-- Requiring a session that is refused fails. -/
theorem requireSession_fails {request : Http.Request} {now : Int} {front : Front}
    {failure : Failure} (refused : sessionCheck request now front = .error failure)
    : Fails failure (requireSession request now) front :=
  .of_perform (requireSession_perform request now front) refused

/-- Identifying a caller that is refused fails. -/
theorem identify_fails {request : Http.Request} {now : Int} {front : Front} {failure : Failure}
    (refused : (callerOf request now front).map (fun _ => ()) = .error failure)
    : Fails failure (identify request now) front := by
  refine .of_perform (identify_perform request now front) ?_
  cases told : callerOf request now front with
  | error other =>
      rw [told] at refused
      exact congrArg _ (Except.error.inj refused)
  | ok caller =>
      rw [told] at refused
      cases refused

/-- The key is looked for in the headers, so unpacking the body changes nothing about it. -/
theorem keyCheck_decoded {decoders : Http.Decoders} (request : Http.Request) (admin : Bool)
    (front : Front)
    : keyCheck (request.decoded decoders) admin front = keyCheck request admin front := by
  have same : presentedKey (request.decoded decoders) = presentedKey request := by
    unfold Http.Request.decoded
    cases Http.Coding.ofRequest? request <;> rfl
  unfold keyCheck
  rw [same]

/-- The response to what an action comes to. -/
def resultResponse : Except Failure Http.Response → Http.Response
  | .ok response => response
  | .error failure => failureResponse failure

/-- The response is that of the result, whatever the store. -/
theorem answerWith_response (front : Front) (action : Action Http.Response)
    : (answerWith front action).response = resultResponse (action.perform front).1 := by
  unfold answerWith
  generalize action.perform front = performed
  obtain ⟨result, later⟩ := performed
  cases result <;> rfl

-----------------------------------------------------------------------------------------
-- Exchanges that turn a caller away
-----------------------------------------------------------------------------------------

/-- A failure is answered with an error. -/
theorem failureResponse_status (failure : Failure)
    : 400 ≤ (failureResponse failure).status := by
  cases failure <;> simp [failureResponse, Http.Response.plain, Failure.status]

/-- Compressing a response does not change its status. -/
theorem encodedFor_status (response : Http.Response) (request : Http.Request)
    : (response.encodedFor request).status = response.status := by
  unfold Http.Response.encodedFor
  split <;> rfl

/-- A failure is not sent in a coding. -/
theorem encodedFor_failing {response : Http.Response} (failing : 400 ≤ response.status)
    (request : Http.Request)
    : response.encodedFor request = response := by
  have failed : response.isSuccess = false := by simpa [Http.Response.isSuccess] using failing
  simp only [Http.Response.encodedFor, failed, Bool.false_eq_true, if_false]

/-- From every store of a kind a request gets the same response, which tells of a failure; it runs
nothing and leaves at most a remembered key behind.
-/
def TurnsAway (kind : Front → Prop) (answer : Front → Exchange) : Prop :=
  ∃ response : Http.Response,
    400 ≤ response.status
    ∧ ∀ front,
        kind front
        → (answer front).response = response
          ∧ (answer front).run = none
          ∧ front.Alike (answer front).front

namespace TurnsAway

variable {kind : Front → Prop} {answer : Front → Exchange} {request : Http.Request}

/-- A fixed error turns away. -/
theorem untouched {response : Http.Response} (failing : 400 ≤ response.status)
    : TurnsAway kind fun front => Service.untouched front response :=
  ⟨response, failing, fun front _ => ⟨rfl, rfl, .refl front⟩⟩

/-- An action that fails on all stores of the kind turns away. -/
theorem answerWith {action : Action Http.Response} (failure : Failure)
    (fails : ∀ front, kind front → Fails failure action front)
    : TurnsAway kind fun front => Service.answerWith front action := by
  refine ⟨failureResponse failure, failureResponse_status failure, fun front refused => ?_⟩
  obtain ⟨failed, alike⟩ := fails front refused
  simp only [Service.answerWith]
  generalize action.perform front = performed at failed alike ⊢
  obtain ⟨result, later⟩ := performed
  cases failed
  exact ⟨rfl, rfl, alike⟩

/-- Leaving out the body of a response still turns away. -/
theorem headOnly (turns : TurnsAway kind answer)
    : TurnsAway kind fun front => Service.headOnly (answer front) := by
  obtain ⟨response, failing, away⟩ := turns
  refine ⟨response, failing, fun front refused => ?_⟩
  obtain ⟨same, idle, alike⟩ := away front refused
  have failed : (answer front).response.isSuccess = false := by
    simpa [Http.Response.isSuccess, same] using failing
  simp only [Service.headOnly, failed, Bool.false_eq_true, if_false]
  exact ⟨same, idle, alike⟩

/-- A request that reads is turned away if its answer is, and one with another method in any case.
-/
theorem reading
    (turns : asksToRead request = true → TurnsAway kind answer)
    : TurnsAway kind fun front => Service.reading request front (answer front) := by
  unfold Service.reading
  by_cases gets : request.method = "GET"
  · simp only [gets, beq_self_eq_true, if_true]
    exact turns (by simp [asksToRead, gets])
  · by_cases heads : request.method = "HEAD"
    · simp only [heads, beq_self_eq_true, if_true]
      exact (turns (by simp [asksToRead, heads])).headOnly
    · simp only [gets, heads, beq_iff_eq, if_false]
      exact untouched (by decide)

/-- A request whose path cannot be read is turned away, as is any other if its answer is. -/
theorem withPiece {piece : List UInt8} {next : String → Front → Exchange}
    (turns : ∀ text, TurnsAway kind (next text))
    : TurnsAway kind fun front => Service.withPiece front piece fun text => next text front := by
  unfold Service.withPiece
  cases Route.pieceText? piece with
  | none => exact untouched (by decide)
  | some text => exact turns text

/-- What turns away on stores of a kind turns away on those of a narrower one. -/
theorem mono {narrow : Front → Prop} (turns : TurnsAway kind answer)
    (implies : ∀ front, narrow front → kind front)
    : TurnsAway narrow answer := by
  obtain ⟨response, failing, away⟩ := turns
  exact ⟨response, failing, fun front refused => away front (implies front refused)⟩

/-- Compressing a response still turns away. -/
theorem encodedFor (turns : TurnsAway kind answer)
    : TurnsAway kind fun front =>
        { answer front with response := (answer front).response.encodedFor request } := by
  obtain ⟨response, failing, away⟩ := turns
  refine ⟨response, failing, fun front refused => ?_⟩
  obtain ⟨same, idle, alike⟩ := away front refused
  refine ⟨?_, idle, alike⟩
  simp only [same, encodedFor_failing failing]

/-- A method that the route does not have turns away. -/
theorem methodNotAllowed : TurnsAway kind fun front => Service.untouched front noMethod :=
  untouched (by decide)

end TurnsAway

-----------------------------------------------------------------------------------------
-- Routes that turn a caller away
-----------------------------------------------------------------------------------------

section

variable (context : Context) (request : Http.Request) (failure : Failure)

/-- A page or its data is for a node with a name, and then for callers with access. -/
theorem showNode_fails (id : String)
    : ∃ failed : Failure,
        ∀ front : Front,
          (if wantsJson request then Demand.key true else .session).check request context.now front
            = .error failure
          → Fails failed (showNode context request id) front := by
  unfold showNode
  cases named : (Text.trim id).isEmpty with
  | true =>
      refine ⟨.nodeNotFound, fun front _ => ?_⟩
      simp only [named, if_true]
      exact (Fails.throw _ front).bind _
  | false =>
      refine ⟨failure, fun front refused => ?_⟩
      simp only [named, Bool.false_eq_true, if_false]
      cases json : wantsJson request with
      | true =>
          simp only [json, if_true] at refused ⊢
          exact (requireKey_fails refused).bind _
      | false =>
          simp only [json, Bool.false_eq_true, if_false] at refused ⊢
          exact (requireSession_fails refused).bind _

/-- A command for a caller that is refused is not prepared, with one failure on all stores. -/
theorem prepare_fails (id : String)
    : ∃ failed : Failure,
        ∀ front : Front,
          Demand.adminKeyOrSession.check request context.now front = .error failure
          → Fails failed (prepare context request id) front := by
  unfold prepare
  cases named : (Text.trim id).isEmpty with
  | true =>
      refine ⟨.nodeNotFound, fun front _ => ?_⟩
      simp only [named, if_true]
      exact (Fails.throw _ front).bind _
  | false =>
      refine ⟨failure, fun front refused => ?_⟩
      simp only [named, Bool.false_eq_true, if_false]
      exact (identify_fails refused).bind _

/-- The listing turns away where the key is refused. -/
theorem answerNodes_turnsAway
    : TurnsAway (fun front => keyCheck request true front = .error failure)
        fun front => answerNodes context request front := by
  unfold answerNodes
  cases ListQuery.ofRequest request with
  | error reason => exact .untouched (by simp [Http.Response.plain])
  | ok query =>
      refine .answerWith failure fun front refused => ?_
      exact (requireKey_fails refused).bind _

/-- The command turns away where the caller is refused. -/
theorem answerCommand_turnsAway (id : String)
    : TurnsAway
        (fun front =>
          Demand.adminKeyOrSession.check request context.now front = .error failure)
        fun front => answerCommand context request front id := by
  obtain ⟨failed, fails⟩ := prepare_fails context request failure id
  refine ⟨failureResponse failed, failureResponse_status failed, fun front refused => ?_⟩
  obtain ⟨result, alike⟩ := fails front refused
  simp only [answerCommand_of_error result]
  exact ⟨trivial, trivial, alike⟩

/-- Every route but the probes turns away whoever fails its check, by cases on the routes. -/
theorem answerRoute_turnsAway {route : Route} (unmeasured : ∀ size, route ≠ .measure size)
    : TurnsAway
        (fun front =>
          ∀ demand,
            route.demand? request = some demand
            → demand.check request context.now front = .error failure)
        fun front => answerRoute context request front route := by
  -- What comes before the check, the id and the query, depends on the request alone.
  cases route with
  | nodes =>
      refine .reading fun reads => ?_
      refine .mono (answerNodes_turnsAway context request failure) fun front refused => ?_
      exact refused (.key true) (by simp [Route.demand?, reads])
  | node piece =>
      simp only [answerRoute]
      by_cases deletes : request.method = "DELETE"
      · simp only [deletes, beq_self_eq_true, if_true]
        refine .withPiece fun id => .answerWith failure fun front refused => ?_
        exact (requireKey_fails (refused (.key true) (by simp [Route.demand?, deletes]))).bind _
      · simp only [deletes, beq_iff_eq, if_false]
        refine .reading fun reads => .withPiece fun id => ?_
        obtain ⟨failed, fails⟩ := showNode_fails context request failure id
        refine .answerWith failed fun front refused => fails front ?_
        exact refused _ (by simp [Route.demand?, deletes, reads])
  | history piece =>
      refine .reading fun reads => .withPiece fun id => ?_
      refine .answerWith failure fun front refused => ?_
      exact (requireKey_fails (refused (.key true) (by simp [Route.demand?, reads]))).bind _
  | command piece =>
      simp only [answerRoute]
      by_cases posts : request.method = "POST"
      · simp only [posts, beq_self_eq_true, if_true]
        refine .withPiece fun id => ?_
        refine .mono (answerCommand_turnsAway context request failure id) fun front refused => ?_
        exact refused .adminKeyOrSession (by simp [Route.demand?, posts])
      · simp only [posts, beq_iff_eq, if_false]
        exact .methodNotAllowed
  | servers =>
      simp only [answerRoute]
      by_cases posts : request.method = "POST"
      · simp only [posts, beq_self_eq_true, if_true]
        refine .answerWith failure fun front refused => ?_
        exact (requireKey_fails (refused (.key true) (by simp [Route.demand?, posts]))).bind _
      · simp only [posts, beq_iff_eq, if_false]
        exact .methodNotAllowed
  | report =>
      simp only [answerRoute]
      by_cases posts : request.method = "POST"
      · simp only [posts, beq_self_eq_true, if_true]
        refine .encodedFor (.answerWith failure fun front refused => ?_)
        have refused := refused (.key false) (by simp [Route.demand?, posts])
        rw [Demand.check, ← keyCheck_decoded] at refused
        exact (requireKey_fails refused).bind _
      · simp only [posts, beq_iff_eq, if_false]
        exact .methodNotAllowed
  | measure size => exact absurd rfl (unmeasured size)

end

end FleetOps.Service
