import FleetOps.Proofs.Service.Contents

/-! What callers learn of the store by what they are answered. Those without access learn nothing of
it, and those with a plain key nothing but the login for a relay that answers their reports.
-/

namespace FleetOps.Service

open FleetOps.Service.Action

-----------------------------------------------------------------------------------------
-- What a check-in comes to
-----------------------------------------------------------------------------------------

/-- What is left of a check-in once its report is stamped. -/
def filing (context : Context) (report : Report) : Action Http.Response := do
  Action.ask (Front.putReport report)
  let relays ← Action.ask Front.listRelays
  pure (jsonResponse 201 (pickLogin relays context.draw).toValue)

/-- What a check-in with an accepted key comes to. -/
def checkInResult (context : Context) (request : Http.Request) (front : Front)
    : Except Failure Http.Response :=
  match reportIn? context request with
  | none => .error .invalidJson
  | some report =>
      if Text.isBlankText report.id then .error (.missingField "ID required")
      else
        match (Front.putReport report front).1 with
        | .error fault => .error (.storage fault)
        | .ok () =>
            match (Front.listRelays front).1 with
            | .error fault => .error (.storage fault)
            | .ok relays => .ok (jsonResponse 201 (pickLogin relays context.draw).toValue)

section

variable {context : Context} {request : Http.Request} {front : Front}

/-- A key that is accepted leaves the store as the check of the key does. -/
theorem requireKey_accepts {admin : Bool} {key : String}
    (presented : presentedKey request = some key)
    (accepted : (Front.validateKey key admin front).1 = .ok true)
    : (requireKey request admin).perform front
      = (.ok (), (Front.validateKey key admin front).2) := by
  simp only [requireKey, perform_bind, presented, perform_require, perform_ask, accepted,
    Except.mapError, if_true, perform_pure]

/-- A check-in with an accepted key goes on with the report of the body, if that has a name. -/
theorem checkIn_goesOn {key : String} (presented : presentedKey request = some key)
    (accepted : (Front.validateKey key false front).1 = .ok true)
    : (checkIn context request).perform front
      = match (jsonBody? request).bind (Report.ofTree? Json.maxOpenBrackets) with
        | none => (.error .invalidJson, (Front.validateKey key false front).2)
        | some sent =>
            if Text.isBlankText sent.id then
              (.error (.missingField "ID required"), (Front.validateKey key false front).2)
            else
              (filing context (stamp sent context.now key (callerAddress request))).perform
                (Front.validateKey key false front).2 := by
  rw [checkIn, perform_bind, requireKey_accepts presented accepted]
  simp only [perform_bind, perform_require]
  cases (jsonBody? request).bind (Report.ofTree? Json.maxOpenBrackets) with
  | none => rfl
  | some sent =>
      cases blank : Text.isBlankText sent.id with
      | true => simp only [blank, if_true, perform_bind, perform_throw]
      | false =>
          simp only [blank, presented, Bool.false_eq_true, if_false, Option.getD_some]
          rfl

/-- The key is checked before the body is looked at, and neither the check nor the report has a part
in which relays are listed.
-/
theorem checkIn_result (accepted : keyCheck request false front = .ok ())
    : ((checkIn context request).perform front).1 = checkInResult context request front := by
  have passed : (keyCheck request false front).isOk = true := by
    rw [accepted]
    rfl
  obtain ⟨key, presented, valid⟩ := (isOk_iff keyCheck_accepts keyCheck_refuses).mp passed
  rw [checkIn_goesOn presented valid]
  unfold checkInResult reportIn?
  have alike := front.alike_validateKey key false
  generalize (Front.validateKey key false front).2 = checked at alike ⊢
  cases (jsonBody? request).bind (Report.ofTree? Json.maxOpenBrackets) with
  | none => rfl
  | some sent =>
      simp only [presented, Option.map_some, Option.getD_some]
      cases blank : Text.isBlankText sent.id with
      | true => simp [stamp, blank]
      | false =>
          generalize marked : stamp sent context.now key (callerAddress request) = stamped
          have named : Text.isBlankText stamped.id = false := by
            rw [← marked]
            exact blank
          have listed : (Front.listRelays (Front.putReport stamped checked).2).1
              = (Front.listRelays front).1 :=
            (alike.listsAlike.trans (checked.listsAlike_putReport stamped)).listRelays.symm
          simp only [named, filing, Bool.false_eq_true, if_false, perform_bind, perform_ask,
            alike.putReport stamped]
          rcases (Front.putReport stamped checked).1 with fault | filed
          · rfl
          · simp only [Except.mapError, listed]
            rcases (Front.listRelays front).1 with fault | relays <;> rfl

/-- A report that is posted is answered by the check-in with its body decoded. -/
theorem handle_eq_checkIn (routed : Route.ofPath? request.uri.path = some .report)
    (posted : request.method = "POST")
    : handle context request front
      = let answered := answerWith front (checkIn context (request.decoded context.decoders))
        { answered with response := answered.response.encodedFor request } := by
  simp only [handle, routed, answerRoute, posted, beq_self_eq_true, if_true]

/-- A check-in with a key that is accepted is answered with what it comes to. -/
theorem handle_checkIn (routed : Route.ofPath? request.uri.path = some .report)
    (posted : request.method = "POST") (accepted : keyCheck request false front = .ok ())
    : (handle context request front).response
      = (resultResponse
          (checkInResult context (request.decoded context.decoders) front)).encodedFor request := by
  rw [← keyCheck_decoded] at accepted
  rw [handle_eq_checkIn routed posted, ← checkIn_result accepted, ← answerWith_response]

end

-----------------------------------------------------------------------------------------
-- Two stores that agree on who has access
-----------------------------------------------------------------------------------------

/-- The request has what its route asks for. -/
def IsAdmitted (context : Context) (request : Http.Request) (front : Front) : Prop :=
  ∃ route demand,
    Route.ofPath? request.uri.path = some route
    ∧ route.demand? request = some demand
    ∧ demand.IsMet request context.now front

/-- Whether there is a check that the request meets is decided by the check of its route. -/
theorem isAdmitted_iff {context : Context} {request : Http.Request} {front : Front}
    : IsAdmitted context request front
      ↔ ∃ demand ∈ (Route.ofPath? request.uri.path).bind (·.demand? request),
          demand.IsMet request context.now front := by
  simp only [IsAdmitted, Option.mem_def, Option.bind_eq_some_iff]
  constructor
  · rintro ⟨route, demand, routed, asked, met⟩
    exact ⟨demand, ⟨route, routed, asked⟩, met⟩
  · rintro ⟨demand, ⟨route, routed, asked⟩, met⟩
    exact ⟨route, demand, routed, asked, met⟩

instance {context : Context} {request : Http.Request} {front : Front}
    : Decidable (IsAdmitted context request front) :=
  decidable_of_iff _ isAdmitted_iff.symm

section

variable {context : Context} {request : Http.Request} {front other : Front}

/-- Two stores turn a request away with one response, and are left as they were. -/
structure BothTurnAway (context : Context) (request : Http.Request) (front other : Front)
    : Prop where
  response : (handle context request front).response = (handle context request other).response
  failing : 400 ≤ (handle context request front).response.status
  idle : (handle context request front).run = none ∧ (handle context request other).run = none
  contents
    : (handle context request front).front.memory = front.memory
      ∧ (handle context request other).front.memory = other.memory

/-- What turns callers away from both stores does so with one response. -/
theorem TurnsAway.both {kind : Front → Prop} (turns : TurnsAway kind (handle context request))
    (refused : kind front) (otherRefused : kind other)
    : BothTurnAway context request front other := by
  obtain ⟨response, failing, away⟩ := turns
  obtain ⟨same, idle, alike⟩ := away front refused
  obtain ⟨otherSame, otherIdle, otherAlike⟩ := away other otherRefused
  exact {
    response := same.trans otherSame.symm
    failing := same ▸ failing
    idle := ⟨idle, otherIdle⟩
    contents := ⟨alike.memory_eq.symm, otherAlike.memory_eq.symm⟩
  }

/-- Callers that are not admitted are turned away from both stores. -/
theorem bothTurnAway (same : front.SameAccess other)
    (unmeasured : ∀ size, Route.ofPath? request.uri.path ≠ some (.measure size))
    (without : ¬ IsAdmitted context request front)
    : BothTurnAway context request front other := by
  cases routed : Route.ofPath? request.uri.path with
  | none =>
      have turns : TurnsAway (fun _ => True) (handle context request) := by
        unfold handle
        simp only [routed]
        exact .untouched (by decide)
      exact turns.both trivial trivial
  | some route =>
      have refused : ∃ failure,
          ∀ demand,
            route.demand? request = some demand
            → demand.check request context.now front = .error failure := by
        cases asked : route.demand? request with
        | none => exact ⟨.forbidden, nofun⟩
        | some demand =>
            obtain ⟨failure, refused⟩ := Demand.check_refuses fun met =>
              without ⟨route, demand, routed, asked, met⟩
            exact ⟨failure, fun _ same => Option.some.inj same ▸ refused⟩
      obtain ⟨failure, refused⟩ := refused
      have turns := answerRoute_turnsAway context request failure fun size measured =>
        unmeasured size (measured ▸ routed)
      have handled
          : handle context request = fun front => answerRoute context request front route := by
        funext front
        simp only [handle, routed]
      rw [← handled] at turns
      refine turns.both refused fun demand asked => ?_
      rw [← demand.check_sameAccess same]
      exact refused demand asked

/-- Only check-ins ask for no more than a plain key. -/
theorem Route.demand?_plainKey {route : Route} (asked : route.demand? request = some (.key false))
    : route = .report ∧ request.method = "POST" := by
  cases route with
  | report =>
      simp only [demand?] at asked
      split at asked
      next posts => exact ⟨rfl, beq_iff_eq.mp posts⟩
      next => cases asked
  | node piece =>
      simp only [demand?] at asked
      repeat' split at asked
      all_goals cases asked
  | measure size => cases asked
  | _ =>
      simp only [demand?] at asked
      split at asked <;> cases asked

/-- Whoever is admitted with no more than a plain key checks in with it. -/
theorem IsAdmitted.checksIn (admitted : IsAdmitted context request front)
    (plain : ¬ PresentsKey request true front)
    (sessionless : ¬ HasSession request context.now front)
    : Route.ofPath? request.uri.path = some .report
      ∧ request.method = "POST"
      ∧ PresentsKey request false front := by
  obtain ⟨route, demand, routed, asked, met⟩ := admitted
  cases demand with
  | session => exact absurd met sessionless
  | adminKeyOrSession => exact (met.elim plain sessionless).elim
  | key admin =>
      cases admin with
      | true => exact absurd met plain
      | false =>
          obtain ⟨rfl, posted⟩ := Route.demand?_plainKey asked
          exact ⟨routed, posted, met⟩

/-- The response to a report that was accepted: the login for one of the relays. -/
def loginResponse (context : Context) (request : Http.Request) (relays : List Relay)
    : Http.Response :=
  (jsonResponse 201 (pickLogin relays context.draw).toValue).encodedFor request

/-- Stores that fail alike answer a check-in alike, but for the relays that they list. -/
theorem checkInResult_failAlike (same : front.FailAlike other)
    : checkInResult context request front = checkInResult context request other
      ∨ ∃ relays others,
          (Front.listRelays front).1 = .ok relays
          ∧ (Front.listRelays other).1 = .ok others
          ∧ checkInResult context request front
            = .ok (jsonResponse 201 (pickLogin relays context.draw).toValue)
          ∧ checkInResult context request other
            = .ok (jsonResponse 201 (pickLogin others context.draw).toValue) := by
  have listings := same.relays
  unfold checkInResult
  cases reportIn? context request with
  | none => exact .inl rfl
  | some report =>
      simp only [same.reports report]
      cases Text.isBlankText report.id with
      | true => exact .inl rfl
      | false =>
          rcases (Front.putReport report other).1 with fault | filed
          · exact .inl rfl
          · generalize (Front.listRelays front).1 = listed at listings ⊢
            generalize (Front.listRelays other).1 = otherListed at listings ⊢
            rcases listed with fault | relays <;> rcases otherListed with otherFault | others
            · cases listings
              exact .inl rfl
            · cases listings
            · cases listings
            · exact .inr ⟨relays, others, rfl, rfl, rfl, rfl⟩

/-- The responses to one request from two stores are the same, or they are logins for relays that
the stores list, in answer to an accepted report.
-/
def SameButLogin (context : Context) (request : Http.Request) (front other : Front) : Prop :=
  (handle context request front).response = (handle context request other).response
  ∨ Route.ofPath? request.uri.path = some .report
    ∧ request.method = "POST"
    ∧ ∃ relays others,
        (Front.listRelays front).1 = .ok relays
        ∧ (Front.listRelays other).1 = .ok others
        ∧ (handle context request front).response = loginResponse context request relays
        ∧ (handle context request other).response = loginResponse context request others

/-- With a plain key at most, a request is answered alike but for the login of a relay. -/
theorem sameButLogin (same : front.SameAccess other)
    (unmeasured : ∀ size, Route.ofPath? request.uri.path ≠ some (.measure size))
    (plain : ¬ PresentsKey request true front)
    (sessionless : ¬ HasSession request context.now front) (failing : front.FailAlike other)
    : SameButLogin context request front other := by
  by_cases admitted : IsAdmitted context request front
  · -- A plain key is enough for check-ins only, and these read nothing but the list of relays.
    obtain ⟨routed, posted, presented⟩ := admitted.checksIn plain sessionless
    have accepted := keyCheck_accepts presented
    have otherAccepted := accepted
    rw [keyCheck_sameAccess same] at otherAccepted
    unfold SameButLogin
    rw [handle_checkIn routed posted accepted, handle_checkIn routed posted otherAccepted]
    rcases checkInResult_failAlike failing with
      equal | ⟨relays, others, listed, otherListed, result, otherResult⟩
    · exact .inl (by rw [equal])
    · refine .inr ⟨routed, posted, relays, others, listed, otherListed, ?_, ?_⟩
      · rw [result]
        rfl
      · rw [otherResult]
        rfl
  · exact .inl (bothTurnAway same unmeasured admitted).response

/-- Two stores that agree on who has access are told apart by nobody who has none. Without what its
route asks for a request is turned away from both with one response. With a plain key at most and
no session it is answered alike, whatever reports there are; only the login in the answer to an
accepted report depends on the relays.
-/
theorem handle_withoutAccess (same : front.SameAccess other)
    (unmeasured : ∀ size, Route.ofPath? request.uri.path ≠ some (.measure size))
    : (¬ IsAdmitted context request front → BothTurnAway context request front other)
      ∧ (¬ PresentsKey request true front
        → ¬ HasSession request context.now front
        → front.FailAlike other
        → SameButLogin context request front other
          ∧ ((Front.listRelays front).1 = (Front.listRelays other).1
            → (handle context request front).response
              = (handle context request other).response)) := by
  refine ⟨bothTurnAway same unmeasured, fun plain sessionless failing => ?_⟩
  have alike := sameButLogin same unmeasured plain sessionless failing
  refine ⟨alike, fun relaysSame => ?_⟩
  rcases alike with equal | ⟨-, -, relays, others, listed, otherListed, answered, otherAnswered⟩
  · exact equal
  · rw [listed, otherListed] at relaysSame
    rw [answered, otherAnswered, Except.ok.inj relaysSame]

end

deriving instance DecidableEq for Http.Payload, Http.Response

/-- An agent may not remove a node and is not told whether there is one; its report is answered with
a login for the relay of the store that it goes to.
-/
theorem agent_withoutAccess
    : let front := Front.plain (oneKeyContents false [relayFor "hub" "fleet"] [.blank "n1"])
      let other := Front.freshlyCached (oneKeyContents false [relayFor "exit" "fleet"] [])
      let removal := keyRequest "DELETE" "/nodes/n1" ""
      let report := keyRequest "POST" "/report" "\x7b\"id\":\"n2\"\x7d"
      front.SameAccess other
      ∧ BothTurnAway openContext removal front other
      ∧ IsAdmitted openContext report front
      ∧ SameButLogin openContext report front other
      ∧ (handle openContext report front).response.status = 201
      ∧ (handle openContext report front).response
        ≠ (handle openContext report other).response := by
  intro front other removal report
  have same : front.SameAccess other := .of_contents rfl rfl
  have failing : front.FailAlike other :=
    .of_works (Front.plain_works _) (Front.freshlyCached_works _)
  have removes : Route.ofPath? removal.uri.path = some (.node (Utf8.encode "n1")) := rfl
  have reports : Route.ofPath? report.uri.path = some .report := rfl
  obtain ⟨turned, -⟩ :=
    @handle_withoutAccess openContext removal front other same fun size => by
      simp [removes]
  obtain ⟨-, answered⟩ :=
    @handle_withoutAccess openContext report front other same fun size => by
      simp [reports]
  refine ⟨same, turned (by decide +kernel), by decide +kernel, ?_, by decide +kernel,
    by decide +kernel⟩
  exact (answered (by decide +kernel) (by decide +kernel) failing).1

end FleetOps.Service
