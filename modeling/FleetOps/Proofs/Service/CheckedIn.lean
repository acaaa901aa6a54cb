import FleetOps.Proofs.Credentials
import FleetOps.Proofs.Service.Contents
import FleetOps.Proofs.Service.Logins

/-! Where a node that has checked in is found again. Its report is filed under its id as it came,
but the requests that name a node leave out the blanks around the id. So they act on the node
exactly if there are none.
-/

namespace FleetOps.Service

open FleetOps.Service.Action

-----------------------------------------------------------------------------------------
-- Requests that name a node
-----------------------------------------------------------------------------------------

/-- The path of the request has a route that varies, and in its place it has some text. -/
def Names (request : Http.Request) (route : List UInt8 → Route) (id : String) : Prop :=
  ∃ piece,
    Route.ofPath? request.uri.path = some (route piece) ∧ Route.pieceText? piece = some id

/-- The response to a request for the latest report of a node, as JSON. -/
def shownResponse : Option Report → Http.Response
  | some report => jsonResponse 200 report.toValue
  | none => failureResponse .nodeNotFound

/-- Requests whose path names `id` act on a node, which has a latest report or none, and a history.
-/
structure ActsOn (front : Front) (id node : String) (latest : Option Report)
    (history : List Report)
    : Prop where
  shows
    : ∀ context request,
        Names request .node id
        → request.method = "GET"
        → wantsJson request = true
        → PresentsKey request true front
        → (handle context request front).response = shownResponse latest
  recounts
    : ∀ context request,
        Names request .history id
        → request.method = "GET"
        → PresentsKey request true front
        → (handle context request front).response = jsonResponse 200 (reportList history)
  removes
    : ∀ context request,
        Names request .node id
        → request.method = "DELETE"
        → PresentsKey request true front
        → match latest with
          | some _ =>
              (handle context request front).response = .empty 204
              ∧ front.memory.Loses node (handle context request front).front.memory
          | none =>
              (handle context request front).response = failureResponse .nodeNotFound
              ∧ (handle context request front).front.memory = front.memory
  commands
    : ∀ context request,
        Names request .command id
        → request.method = "POST"
        → match CommandCheck.firstFailure? context request node front with
          | some failure =>
              (handle context request front).response = failureResponse failure
              ∧ (handle context request front).run = none
              ∧ (latest.isSome → failure ≠ .nodeNotFound)
          | none =>
              ∃ prepared : Prepared,
                prepared.Follows context request node front
                ∧ latest = some prepared.report
                ∧ (handle context request front).run = some (prepared.run context)

section

variable {context : Context} {request : Http.Request} {front : Front} {id : String}

/-- A handler that asks for a key goes on with it on a store with the same contents. -/
theorem requireKey_goesOn {α : Type} {admin : Bool} (works : front.Works)
    (presents : PresentsKey request admin front) (next : Unit → Action α)
    : ∃ later : Front,
        later.Works
        ∧ later.memory = front.memory
        ∧ (requireKey request admin >>= next).perform front = (next ()).perform later := by
  obtain ⟨passed, alike⟩ := requireKey_perform request admin front
  rw [keyCheck_accepts presents] at passed
  exact ⟨_, alike.works works, alike.memory_eq.symm, perform_bind_ok passed next⟩

/-- What the store answers is gone on with. -/
theorem ask_goesOn {α β : Type} {act : StoreAction α} {answer : α}
    (answered : (act front).1 = .ok answer) (next : α → Action β)
    : (ask act >>= next).perform front = (next answer).perform (act front).2 := by
  have asked : ((ask act).perform front).1 = .ok answer := by
    rw [perform_ask, answered]
    rfl
  exact perform_bind_ok asked next

/-- A store in working order finds the latest report that its contents have. -/
theorem getReport_works (works : front.Works) (node : String)
    : (Front.getReport node front).1 = .ok (front.memory.reports.get? node) :=
  works.answer (.getReport node) rfl

/-- The detail of a node shows its latest report. -/
theorem handle_shows (works : front.Works) (named : (Text.trim id).isEmpty = false)
    (names : Names request .node id) (gets : request.method = "GET")
    (json : wantsJson request = true) (presents : PresentsKey request true front)
    : (handle context request front).response
      = shownResponse (front.memory.reports.get? (Text.trim id)) := by
  obtain ⟨piece, routed, decoded⟩ := names
  simp only [handle, routed, answerRoute, gets, reading, withPiece, decoded, String.reduceBEq,
    Bool.false_eq_true, if_false, if_true]
  rw [answerWith_response]
  simp only [showNode, named, json, Bool.false_eq_true, if_false, if_true]
  obtain ⟨later, working, same, performed⟩ := requireKey_goesOn works presents _
  rw [performed, ask_goesOn (getReport_works working _), same]
  cases front.memory.reports.get? (Text.trim id) <;> rfl

/-- The history of a node lists all its reports. -/
theorem handle_recounts (works : front.Works) (names : Names request .history id)
    (gets : request.method = "GET") (presents : PresentsKey request true front)
    : (handle context request front).response
      = jsonResponse 200 (reportList (front.memory.historyOf (Text.trim id))) := by
  obtain ⟨piece, routed, decoded⟩ := names
  simp only [handle, routed, answerRoute, gets, reading, withPiece, decoded, beq_self_eq_true,
    if_true]
  rw [answerWith_response]
  simp only [showHistory]
  obtain ⟨later, working, same, performed⟩ := requireKey_goesOn works presents _
  have told : (Front.listHistory (Text.trim id) later).1
      = .ok (later.memory.historyOf (Text.trim id)) :=
    working.answer (.listHistory (Text.trim id)) rfl
  rw [performed, ask_goesOn told, same]
  rfl

/-- A removal answers with success if there is a latest report, which it then drops. -/
theorem handle_removes (works : front.Works) (names : Names request .node id)
    (deletes : request.method = "DELETE") (presents : PresentsKey request true front)
    : match front.memory.reports.get? (Text.trim id) with
      | some _ =>
          (handle context request front).response = .empty 204
          ∧ front.memory.Loses (Text.trim id) (handle context request front).front.memory
      | none =>
          (handle context request front).response = failureResponse .nodeNotFound
          ∧ (handle context request front).front.memory = front.memory := by
  obtain ⟨piece, routed, decoded⟩ := names
  have does := (handle_does context request works).outcome
  have response : (handle context request front).response
      = match front.memory.reports.get? (Text.trim id) with
        | some _ => .empty 204
        | none => failureResponse .nodeNotFound := by
    simp only [handle, routed, answerRoute, deletes, beq_self_eq_true, if_true, withPiece, decoded]
    rw [answerWith_response]
    simp only [forgetNode]
    obtain ⟨later, working, same, performed⟩ := requireKey_goesOn works presents _
    rw [performed, ask_goesOn (getReport_works working _), same]
    cases front.memory.reports.get? (Text.trim id) with
    | none => rfl
    | some report =>
        have found := (working.perform (.getReport (Text.trim id))).2.1
        have dropped
            : (Front.deleteReport (Text.trim id) (Front.getReport (Text.trim id) later).2).1
              = .ok () :=
          found.answer (.deleteReport (Text.trim id)) rfl
        simp only [require, pure_bind]
        rw [ask_goesOn dropped]
        rfl
  cases latest : front.memory.reports.get? (Text.trim id) with
  | none =>
      simp only [latest] at response ⊢
      refine ⟨response, ?_⟩
      rw [response] at does
      rcases does with ⟨_, same⟩ | ⟨_, success, _⟩
      · exact same
      · exact absurd success (by decide)
  | some report =>
      simp only [latest] at response ⊢
      refine ⟨response, ?_⟩
      rw [response] at does
      rcases does with ⟨fails, _⟩ | ⟨_, _, changes⟩
      · exact absurd fails (by decide)
      · simp only [SuccessChanges, routed, deletes, if_true] at changes
        obtain ⟨other, named, loses⟩ := changes
        rw [decoded] at named
        rwa [Option.some.inj named]

/-- Who is no caller is not told that there is no such node. -/
theorem callerOf_isOther {now : Int} {failure : Failure}
    (refused : callerOf request now front = .error failure)
    : failure ≠ .nodeNotFound := by
  rintro rfl
  unfold callerOf browserOf at refused
  repeat' split at refused
  all_goals simp at refused

/-- No check but that of the report finds that there is no such node, by cases on the checks. -/
theorem CommandCheck.failure?_isOther {node : String} {failure : Failure} {check : CommandCheck}
    (other : check ≠ .report) (fails : check.failure? context request node front = some failure)
    : failure ≠ .nodeNotFound := by
  rintro rfl
  cases check with
  | report => exact other rfl
  | caller =>
      simp only [failure?] at fails
      cases called : callerOf request context.now front with
      | ok caller => simp [called] at fails
      | error failure =>
          simp only [called, Option.some.injEq] at fails
          exact callerOf_isOther called fails
  | timeout =>
      simp only [failure?, Option.bind_eq_some_iff] at fails
      obtain ⟨form, -, fails⟩ := fails
      cases asked : requestedTimeout form.timeout with
      | ok timeout => simp [asked] at fails
      | error failure =>
          simp only [asked, Option.some.injEq] at fails
          subst fails
          simp only [requestedTimeout] at asked
          repeat' split at asked
          all_goals cases asked
  | port =>
      simp only [failure?, Option.bind_eq_some_iff] at fails
      obtain ⟨report, -, fails⟩ := fails
      split at fails <;> cases fails
  | relay =>
      simp only [failure?, Option.bind_eq_some_iff] at fails
      obtain ⟨report, -, fails⟩ := fails
      unfold lookupFailure? at fails
      split at fails <;> cases fails
  | form =>
      simp only [failure?] at fails
      split at fails <;> cases fails
  | user | command | callerKey | relayKey =>
      simp only [failure?, Option.bind_eq_some_iff] at fails
      obtain ⟨_, -, fails⟩ := fails
      split at fails <;> cases fails

/-- A command is for the node that the path names, and it is run if no check fails. -/
theorem handle_runs (named : (Text.trim id).isEmpty = false) (names : Names request .command id)
    (posts : request.method = "POST")
    : match CommandCheck.firstFailure? context request (Text.trim id) front with
      | some failure =>
          (handle context request front).response = failureResponse failure
          ∧ (handle context request front).run = none
      | none =>
          ∃ prepared : Prepared,
            prepared.Follows context request (Text.trim id) front
            ∧ (handle context request front).run = some (prepared.run context) := by
  obtain ⟨piece, routed, decoded⟩ := names
  have settled : Settles (CommandCheck.firstFailure? context request (Text.trim id) front) _ _ :=
    prepare_settles named
  rw [handle_eq_answerCommand routed posts decoded]
  cases first : CommandCheck.firstFailure? context request (Text.trim id) front with
  | some failure =>
      rw [first] at settled
      rw [answerCommand_of_error settled]
      exact ⟨rfl, rfl⟩
  | none =>
      rw [first] at settled
      obtain ⟨prepared, done, follows⟩ := settled
      rw [answerCommand_of_ok done]
      exact ⟨prepared, follows, rfl⟩

/-- A command for a node with a latest report is not refused for want of one. -/
theorem handle_commands (works : front.Works) (named : (Text.trim id).isEmpty = false)
    (names : Names request .command id) (posts : request.method = "POST")
    : match CommandCheck.firstFailure? context request (Text.trim id) front with
      | some failure =>
          (handle context request front).response = failureResponse failure
          ∧ (handle context request front).run = none
          ∧ ((front.memory.reports.get? (Text.trim id)).isSome → failure ≠ .nodeNotFound)
      | none =>
          ∃ prepared : Prepared,
            prepared.Follows context request (Text.trim id) front
            ∧ front.memory.reports.get? (Text.trim id) = some prepared.report
            ∧ (handle context request front).run = some (prepared.run context) := by
  have runs := @handle_runs context request front id named names posts
  cases first : CommandCheck.firstFailure? context request (Text.trim id) front with
  | some failure =>
      simp only [first] at runs ⊢
      refine ⟨runs.1, runs.2, fun known => ?_⟩
      obtain ⟨report, latest⟩ := Option.isSome_iff_exists.mp known
      obtain ⟨check, -, fails⟩ := List.exists_of_findSome?_eq_some first
      refine CommandCheck.failure?_isOther ?_ fails
      rintro rfl
      simp [CommandCheck.failure?, getReport_works works, latest, lookupFailure?] at fails
  | none =>
      simp only [first] at runs ⊢
      obtain ⟨prepared, follows, ran⟩ := runs
      have reported := follows.plan.reported
      rw [getReport_works works] at reported
      exact ⟨prepared, follows, Except.ok.inj reported, ran⟩

/-- The requests that name a node leave out the blanks around its id. -/
theorem actsOn_trimmed (works : front.Works) (named : (Text.trim id).isEmpty = false)
    : ActsOn front id (Text.trim id) (front.memory.reports.get? (Text.trim id))
        (front.memory.historyOf (Text.trim id)) where
  shows := fun _ _ names gets json presents => handle_shows works named names gets json presents
  recounts := fun _ _ names gets presents => handle_recounts works names gets presents
  removes := fun _ _ names deletes presents => handle_removes works names deletes presents
  commands := fun _ _ names posts => handle_commands works named names posts

end

-----------------------------------------------------------------------------------------
-- Until the next report or removal
-----------------------------------------------------------------------------------------

/-- The request checks a node in, or it removes it, and the store accepts that. -/
def Concerns (context : Context) (request : Http.Request) (front : Front) (id : String) : Prop :=
  (handle context request front).response.status < 300
  ∧ (Route.ofPath? request.uri.path = some .report
      ∧ request.method = "POST"
      ∧ (reportIn? context (request.decoded context.decoders)).map (·.id) = some id
    ∨ ∃ named,
        Names request .node named ∧ request.method = "DELETE" ∧ Text.trim named = id)

/-- None of the requests concerns the node when the store has served those before it. -/
def Unconcerned (id : String) : Front → List (Context × Http.Request) → Prop
  | _, [] => True
  | front, (context, request) :: rest =>
      ¬ Concerns context request front id
      ∧ Unconcerned id (handle context request front).front rest

section

variable {context : Context} {request : Http.Request} {front : Front} {id : String}

/-- A request that does not concern a node leaves what is known of it, by cases on what it does. One
that is refused changes nothing, so only what an accepted one does has to be looked at.
-/
theorem handle_unconcerned (works : front.Works)
    (unconcerned : ¬ Concerns context request front id)
    : (handle context request front).front.memory.reports.get? id = front.memory.reports.get? id
      ∧ (handle context request front).front.memory.historyOf id = front.memory.historyOf id := by
  rcases (handle_does context request works).outcome with ⟨_, same⟩ | ⟨_, accepted, changes⟩
  · rw [same]
    exact ⟨rfl, rfl⟩
  · unfold SuccessChanges at changes
    split at changes
    next routed =>
      obtain ⟨posted, report, brought, -, gains⟩ := changes
      have other : report.id ≠ id := fun same =>
        unconcerned ⟨accepted, .inl ⟨routed, posted, by rw [brought, Option.map_some, same]⟩⟩
      rw [gains.latest, gains.history, if_neg (Ne.symm other), if_neg other, List.append_nil]
      exact ⟨rfl, rfl⟩
    next piece routed =>
      split at changes
      next deletes =>
        obtain ⟨named, decoded, loses⟩ := changes
        have other : Text.trim named ≠ id := fun same =>
          unconcerned ⟨accepted, .inr ⟨named, ⟨piece, routed, decoded⟩, deletes, same⟩⟩
        rw [loses.latest, if_neg (Ne.symm other)]
        exact ⟨rfl, congrArg (fun history => (history.get? id).getD []) loses.history⟩
      next =>
        rw [changes]
        exact ⟨rfl, rfl⟩
    next =>
      obtain ⟨-, relay, -, registers⟩ := changes
      rw [registers.reports]
      exact ⟨rfl, congrArg (fun history => (history.get? id).getD []) registers.history⟩
    next =>
      rw [changes]
      exact ⟨rfl, rfl⟩

/-- So do any number of them, one after another, by induction over them. -/
theorem servedAll_unconcerned {requests : List (Context × Http.Request)} (works : front.Works)
    (unconcerned : Unconcerned id front requests)
    : (servedAll front requests).memory.reports.get? id = front.memory.reports.get? id
      ∧ (servedAll front requests).memory.historyOf id = front.memory.historyOf id := by
  induction requests generalizing front with
  | nil => exact ⟨rfl, rfl⟩
  | cons first rest ih =>
      obtain ⟨context, request⟩ := first
      obtain ⟨latest, history⟩ := handle_unconcerned works unconcerned.1
      obtain ⟨later, longer⟩ := ih (handle_does context request works).works unconcerned.2
      exact ⟨later.trans latest, longer.trans history⟩

/-- A store that has served requests is still one that can be reached. -/
theorem servedAll_reachable {requests : List (Context × Http.Request)}
    (reachable : front.Reachable)
    : (servedAll front requests).Reachable := by
  induction requests generalizing front with
  | nil => exact reachable
  | cons first rest ih => exact ih (reachable.served first.1 first.2)

/-- A check-in that succeeds files the report, which has a name. -/
theorem checkIn_files (works : front.Works)
    (routed : Route.ofPath? request.uri.path = some .report)
    (accepted : (handle context request front).response.status = 201)
    : ∃ report,
        reportIn? context (request.decoded context.decoders) = some report
        ∧ (Text.trim report.id).isEmpty = false
        ∧ front.memory.Gains report (handle context request front).front.memory := by
  rcases (handle_does context request works).outcome with ⟨fails, _⟩ | ⟨_, _, changes⟩
  · exact absurd (accepted ▸ fails) (by decide)
  · simp only [SuccessChanges, routed] at changes
    obtain ⟨-, report, brought, named, gains⟩ := changes
    exact ⟨report, brought, (Text.trim_isEmpty report.id).trans named, gains⟩

/-- A report that was accepted is the node's latest until the next report or removal is accepted. If
there are no blanks around its id, then the requests that name the node by this id act on it. If
there are some, then no request whose path has the id acts on the node: they all act on what goes by
the id without the blanks, which is another node or none.
-/
theorem checkedIn_actsOn (works : front.Works)
    (routed : Route.ofPath? request.uri.path = some .report)
    (accepted : (handle context request front).response.status = 201)
    : ∃ report,
        reportIn? context (request.decoded context.decoders) = some report
        ∧ ∀ requests,
            Unconcerned report.id (handle context request front).front requests
            → let later := servedAll (handle context request front).front requests
              (Text.trim report.id = report.id
                → ∃ earlier,
                    ActsOn later report.id report.id (some report) (earlier ++ [report]))
              ∧ (Text.trim report.id ≠ report.id
                → later.memory.reports.get? report.id = some report
                  ∧ ActsOn later report.id (Text.trim report.id)
                      (later.memory.reports.get? (Text.trim report.id))
                      (later.memory.historyOf (Text.trim report.id))
                  ∧ (front.Reachable
                    → ∀ other,
                        later.memory.reports.get? (Text.trim report.id) = some other
                        → other.id ≠ report.id)) := by
  obtain ⟨report, brought, named, gains⟩ := checkIn_files works routed accepted
  refine ⟨report, brought, ?_⟩
  intro requests unconcerned later
  have served := (handle_does context request works).works
  have working : later.Works := (servedAll_continues requests served).1
  obtain ⟨latest, history⟩ := servedAll_unconcerned served unconcerned
  rw [gains.latest, if_pos rfl] at latest
  rw [gains.history, if_pos rfl] at history
  -- All requests go by the id without the blanks. Only if that is the id do they find the report.
  have acts := actsOn_trimmed working named
  refine ⟨fun trimmed => ?_, fun blanked => ⟨latest, acts, fun reachable other found same => ?_⟩⟩
  · rw [trimmed, latest, history] at acts
    exact ⟨_, acts⟩
  · have reached : later.Reachable := servedAll_reachable (reachable.served context request)
    have filed : other.id = Text.trim report.id := reached.named.filed.reports _ _ found
    exact blanked (filed.symm.trans same)

end

/-- A node whose id has no blanks around it checks in, and is acted on by its id. -/
theorem checkedIn_actsOn_plainId
    : let front := Front.plain (oneKeyContents true [] [])
      let report := keyRequest "POST" "/report" "\x7b\"id\":\"n1\"\x7d"
      let served := handle openContext report front
      front.Works
      ∧ Route.ofPath? report.uri.path = some .report
      ∧ served.response.status = 201
      ∧ ∃ report history,
          report.id = "n1"
          ∧ ActsOn served.front "n1" "n1" (some report) (history ++ [report]) := by
  intro front report served
  have works : front.Works := Front.plain_works _
  have routed : Route.ofPath? report.uri.path = some .report := rfl
  have accepted : served.response.status = 201 := by decide +kernel
  have named : (reportIn? openContext (report.decoded openContext.decoders)).map (·.id)
      = some "n1" := by decide +kernel
  obtain ⟨filed, brought, acts⟩ := checkedIn_actsOn works routed accepted
  obtain ⟨reached, -⟩ := acts [] trivial
  rw [brought] at named
  have id : filed.id = "n1" := Option.some.inj named
  rw [id] at reached
  obtain ⟨earlier, acts⟩ := reached (by decide +kernel)
  exact ⟨works, routed, accepted, filed, earlier, id, acts⟩

/-- A node whose id begins with a blank checks in. Its removal by its own id finds no such node, and
it removes the node that goes by the id without the blank if there is one.
-/
theorem blankedId_isMissed
    : let alone := Front.plain (oneKeyContents true [] [])
      let beside := Front.plain (oneKeyContents true [] [.blank "n1"])
      let report := keyRequest "POST" "/report" "\x7b\"id\":\" n1\"\x7d"
      let removal := keyRequest "DELETE" "/nodes/%20n1" ""
      let removed (front : Front) :=
        handle openContext removal (handle openContext report front).front
      let holds (front : Front) (id : String) := (front.memory.reports.get? id).isSome
      Route.pieceText? (Utf8.encode "%20n1") = some " n1"
      ∧ (handle openContext report alone).response.status = 201
      ∧ (removed alone).response.status = 404
      ∧ holds (removed alone).front " n1"
      ∧ (handle openContext report beside).response.status = 201
      ∧ (removed beside).response.status = 204
      ∧ holds (removed beside).front " n1"
      ∧ ¬ holds (removed beside).front "n1" := by
  decide +kernel

end FleetOps.Service
