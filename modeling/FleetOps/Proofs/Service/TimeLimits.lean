import FleetOps.Proofs.Service.Logins
import FleetOps.Proofs.Settings

/-! The time limits of commands. A run is given the limit that its form asks for, or else the one
that the environment of the service sets; a form that asks for something else runs nothing.
-/

namespace FleetOps.Service

-----------------------------------------------------------------------------------------
-- The check of the time limit
-----------------------------------------------------------------------------------------

namespace CommandCheck

/-- The checks that go before the one of the time limit. -/
def beforeTimeout : List CommandCheck := [caller, form, user, command]

/-- The checks that come after the one of the time limit. -/
def afterTimeout : List CommandCheck := [callerKey, report, port, relay, relayKey]

/-- The failure of the first check after the one of the time limit that fails. -/
def laterFailure? (context : Context) (request : Http.Request) (node : String) (front : Front)
    : Option Failure :=
  afterTimeout.findSome? (failure? context request node front)

end CommandCheck

section

variable {context : Context} {request : Http.Request} {node : String} {front : Front}
  {form : CommandForm} {otherwise seconds : Nat} {prepared : Prepared}

namespace CommandCheck

/-- If nothing fails before the check of the time limit, then that one decides or what comes after
it.
-/
theorem firstFailure?_of_passed
    (passed : beforeTimeout.findSome? (failure? context request node front) = none)
    : firstFailure? context request node front
      = (timeout.failure? context request node front).or
          (laterFailure? context request node front) := by
  have order : inOrder = beforeTimeout ++ timeout :: afterTimeout := rfl
  rw [firstFailure?, order, List.findSome?_append, passed, Option.none_or, findSome?_cons_eq_or,
    laterFailure?]

/-- The check passes a form that asks for a time limit. -/
theorem timeout_passes (read : CommandForm.ofRequest? request = some form)
    (asks : AsksForLimit otherwise form.timeout seconds)
    : timeout.failure? context request node front = none := by
  obtain ⟨asked, accepted, -⟩ := asksForLimit_iff.mp asks
  rw [failure?, read, Option.bind_some, accepted]

/-- The check fails on a form that asks for something else. -/
theorem timeout_fails (read : CommandForm.ofRequest? request = some form)
    (none : ∀ seconds, ¬ AsksForLimit otherwise form.timeout seconds)
    : timeout.failure? context request node front = some .invalidTimeout := by
  rw [failure?, read, Option.bind_some]
  cases asked : requestedTimeout form.timeout with
  | ok limit => exact absurd (asksForLimit_iff.mpr ⟨limit, asked, rfl⟩) (none _)
  | error failure => rw [requestedTimeout_error asked]

end CommandCheck

/-- What was prepared has the time limit for which its form asks. -/
theorem Prepared.Follows.asksForLimit (follows : prepared.Follows context request node front)
    : ∃ form,
        CommandForm.ofRequest? request = some form
        ∧ AsksForLimit context.commandTimeout form.timeout prepared.request.timeout := by
  obtain ⟨form, read, wanted⟩ := follows.form
  exact ⟨form, read, asksForLimit_iff.mpr wanted.timeout⟩

-----------------------------------------------------------------------------------------
-- Requests that get as far as their time limit
-----------------------------------------------------------------------------------------

/-- A request for a command that passes the checks before the one of its time limit. -/
structure ReachesTimeout (context : Context) (request : Http.Request) (front : Front)
    (node : String) (form : CommandForm) : Prop where
  posted : request.method = "POST"
  routed
    : ∃ piece id,
        Route.ofPath? request.uri.path = some (.command piece)
        ∧ Route.pieceText? piece = some id
        ∧ node = Text.trim id
        ∧ node.isEmpty = false
  read : CommandForm.ofRequest? request = some form
  passed
    : CommandCheck.beforeTimeout.findSome? (·.failure? context request node front) = none

/-- Such a request is refused as the first of the other checks that fails, or it is run. -/
theorem ReachesTimeout.handle_settles (reaches : ReachesTimeout context request front node form)
    : match (CommandCheck.timeout.failure? context request node front).or
          (CommandCheck.laterFailure? context request node front) with
      | some failure =>
          (handle context request front).response = .plain failure.status failure.message
          ∧ (handle context request front).run = none
          ∧ ∀ hops,
              handle { context with hops := hops } request front = handle context request front
      | none =>
          ∃ prepared : Prepared,
            prepared.Follows context request node front
            ∧ (handle context request front).run = some (prepared.run context) := by
  obtain ⟨piece, id, routed, decoded, rfl, named⟩ := reaches.routed
  have settled := @prepare_settles context request front id named
  rw [CommandCheck.firstFailure?_of_passed reaches.passed] at settled
  simp only [handle_eq_answerCommand routed reaches.posted decoded]
  split
  next failure first =>
    rw [first] at settled
    refine ⟨?_, ?_, fun hops => ?_⟩
    · rw [answerCommand_of_error settled]
      rfl
    · rw [answerCommand_of_error settled]
    · have elsewhere := settled
      rw [← prepare_hops context hops] at elsewhere
      rw [answerCommand_of_error settled, answerCommand_of_error elsewhere, prepare_hops]
  next none =>
    rw [none] at settled
    obtain ⟨prepared, done, follows⟩ := settled
    rw [answerCommand_of_ok done]
    exact ⟨prepared, follows, rfl⟩

end

-----------------------------------------------------------------------------------------
-- The time limits of runs
-----------------------------------------------------------------------------------------

/-- The context of a service that has its settings from an environment. -/
def Context.settledBy (context : Context) (environment : Environment) : Context :=
  { context with commandTimeout := (Settings.ofEnvironment environment).commandTimeout }

/-- In every environment each run has a number of seconds above zero and of 64 bits as its time
limit. It is what the form of the request asks for: the number that its text writes, and for a blank
text what the environment sets. If a request that gets as far as its time limit asks for one, then a
later check answers or the command is run with it; if it asks for something else, then it is refused
for that, without any use of the network.
-/
theorem commands_keepTime (environment : Environment) (context : Context)
    (request : Http.Request) (front : Front)
    : let context := context.settledBy environment
      let served := handle context request front
      (∀ limit, environment.SetsLimit limit ↔ limit = context.commandTimeout)
      ∧ (∀ run,
        served.run = some run
        → ∃ form plan seconds,
            CommandForm.ofRequest? request = some form
            ∧ AsksForLimit context.commandTimeout form.timeout seconds
            ∧ 1 ≤ seconds
            ∧ seconds ≤ Text.word64Limit
            ∧ run = Supervision.run context.hops plan (seconds * 1000))
      ∧ ∀ node form,
          ReachesTimeout context request front node form
          → (∀ seconds,
            AsksForLimit context.commandTimeout form.timeout seconds
            → match CommandCheck.laterFailure? context request node front with
              | some failure =>
                  served.response = .plain failure.status failure.message ∧ served.run = none
              | none =>
                  ∃ report plan,
                    PlanFollows context.readKey node front report plan
                    ∧ served.run = some (Supervision.run context.hops plan (seconds * 1000)))
            ∧ ((∀ seconds, ¬ AsksForLimit context.commandTimeout form.timeout seconds)
              → served.response = .plain 400 "Invalid timeout value"
                ∧ served.run = none
                ∧ ∀ hops, handle { context with hops := hops } request front = served) := by
  intro context served
  have sets : environment.SetsLimit context.commandTimeout := Settings.setsLimit_iff.mpr rfl
  refine ⟨fun limit => Settings.setsLimit_iff, ?bounded, ?reached⟩
  case bounded =>
    intro run ran
    obtain ⟨_, _, prepared, -, -, follows, rfl⟩ := handle_ran ran
    obtain ⟨form, read, asks⟩ := follows.asksForLimit
    obtain ⟨positive, small⟩ := asks.bounds sets.bounds
    exact ⟨form, prepared.plan, _, read, asks, positive, small, rfl⟩
  case reached =>
    intro node form reaches
    have settled := reaches.handle_settles
    constructor
    · intro seconds asks
      rw [CommandCheck.timeout_passes reaches.read asks, Option.none_or] at settled
      split at settled
      next failure first => exact ⟨settled.1, settled.2.1⟩
      next none =>
        obtain ⟨prepared, follows, ran⟩ := settled
        obtain ⟨same, read, own⟩ := follows.asksForLimit
        obtain rfl := Option.some.inj (reaches.read.symm.trans read)
        rw [asks.unique own]
        exact ⟨_, _, follows.plan, ran⟩
    · intro none
      rw [CommandCheck.timeout_fails reaches.read none, Option.some_or] at settled
      exact settled

/-- An environment that sets a time limit for commands and nothing else. -/
def environmentWith (limit : String) : Environment :=
  {
    port := none
    commandTimeout := some limit
    keepalive := none
    compression := none
    seedFile := none
  }

/-- The browser's command, with the text of a time limit as it is in the body. -/
def timedRequest (timeout : String) : Http.Request :=
  { uptimeRequest with
    body := .ok (Utf8.encode ("user=ana&password=p&command=uptime&timeout=" ++ timeout)) }

/-- The service where the environment sets forty-five seconds. -/
abbrev patientContext : Context := openContext.settledBy (environmentWith "+045")

/-- Where the environment sets forty-five seconds, a command runs for seven of them if its form says
so between blanks, for all of them if the form is silent, and not at all for zero.
-/
theorem uptime_keepsTime
    : (∃ plan,
        (handle patientContext (timedRequest "%E3%80%80%2B007+") oneNodeStore).run
          = some (Supervision.run patientContext.hops plan (7 * 1000)))
      ∧ (∃ plan,
        (handle patientContext (timedRequest "+") oneNodeStore).run
          = some (Supervision.run patientContext.hops plan (45 * 1000)))
      ∧ (handle patientContext (timedRequest "0") oneNodeStore).run = none
      ∧ (handle patientContext (timedRequest "0") oneNodeStore).response
        = .plain 400 "Invalid timeout value" := by
  have keepsTime (timeout : String) :=
    commands_keepTime (environmentWith "+045") openContext (timedRequest timeout) oneNodeStore
  have limit : patientContext.commandTimeout = 45 :=
    (((keepsTime "").1 45).mp (.told rfl (by decide) (by decide) (by decide))).symm
  have reaches (body timeout : String)
      (read : (CommandForm.ofRequest? (timedRequest body)).map (·.timeout) = some timeout)
      (passed
        : (CommandCheck.beforeTimeout.findSome?
            (·.failure? patientContext (timedRequest body) "n1" oneNodeStore)).isNone = true)
      : ∃ form,
          form.timeout = timeout
          ∧ ReachesTimeout patientContext (timedRequest body) oneNodeStore "n1" form := by
    obtain ⟨form, brought, same⟩ := Option.map_eq_some_iff.mp read
    exact ⟨form, same, {
      posted := rfl
      routed := ⟨Utf8.encode "n1", "n1", rfl, by decide +kernel, by decide +kernel, rfl⟩
      read := brought
      passed := Option.isNone_iff_eq_none.mp passed
    }⟩
  -- Nothing but the time limit can fail.
  have runs (body timeout : String) (seconds : Nat)
      (reached
        : ∃ form,
            form.timeout = timeout
            ∧ ReachesTimeout patientContext (timedRequest body) oneNodeStore "n1" form)
      (asks : AsksForLimit patientContext.commandTimeout timeout seconds)
      (usable
        : (CommandCheck.laterFailure? patientContext (timedRequest body) "n1" oneNodeStore).isNone
          = true)
      : ∃ plan,
          (handle patientContext (timedRequest body) oneNodeStore).run
            = some (Supervision.run patientContext.hops plan (seconds * 1000)) := by
    obtain ⟨form, rfl, reached⟩ := reached
    obtain ⟨settled, -⟩ := (keepsTime body).2.2 "n1" form reached
    specialize settled seconds asks
    simp only [Option.isNone_iff_eq_none.mp usable] at settled
    obtain ⟨_, plan, -, run⟩ := settled
    exact ⟨plan, run⟩
  refine ⟨?own, ?common, ?refused⟩
  case own =>
    have reached := reaches "%E3%80%80%2B007+" "\u3000+007 " (by decide +kernel) (by decide +kernel)
    have numeral : Text.IsNumeralOf 7 (Text.trim "\u3000+007 ") := by decide +kernel
    exact runs _ _ 7 reached (.numeral numeral (by decide) (by decide)) (by decide +kernel)
  case common =>
    have reached := reaches "+" " " (by decide +kernel) (by decide +kernel)
    have asks : AsksForLimit patientContext.commandTimeout " " 45 := limit ▸ .blank (by decide)
    exact runs _ _ 45 reached asks (by decide +kernel)
  case refused =>
    obtain ⟨form, zero, reached⟩ := reaches "0" "0" (by decide +kernel) (by decide +kernel)
    have none : ∀ seconds, ¬ AsksForLimit patientContext.commandTimeout form.timeout seconds := by
      rw [zero]
      rintro _ (blank | ⟨numeral, positive, -⟩)
      · exact absurd blank (by decide)
      · have written : Text.IsNumeralOf 0 (Text.trim "0") := by decide +kernel
        rw [numeral.unique written] at positive
        exact absurd positive (by decide)
    obtain ⟨response, idle, -⟩ := ((keepsTime "0").2.2 "n1" form reached).2 none
    exact ⟨idle, response⟩

end FleetOps.Service
