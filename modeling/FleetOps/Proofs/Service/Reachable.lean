import FleetOps.Proofs.Service.Twins
import FleetOps.Proofs.Store.Named
import FleetOps.Proofs.Store.Works

/-! The stores that can be found behind the service. Whatever every request to a store keeps the
service keeps, so that all that such a store knows is filed under its own name, and a store that is
in step with its contents stays so.
-/

namespace FleetOps.Service

open FleetOps.Service.Action

/-- The stores are one and the same, and something holds of it. -/
def IsOne (holds : Front → Prop) (front other : Front) : Prop := front = other ∧ holds front

section

variable {holds : Front → Prop}
  (keeps
    : ∀ request : StoreRequest,
        (∀ report, request ≠ .putReport report)
        → ∀ front, holds front → holds (request.perform front).2)

include keeps

/-- A single store does what it does alike. -/
theorem isOne_uniform : Uniform (IsOne holds) := by
  intro request other front _ one
  obtain ⟨rfl, held⟩ := one
  exact ⟨rfl, rfl, keeps request other front held⟩

/-- A check-in keeps what filing the report that it brings keeps. -/
theorem checkIn_matches_isOne (context : Context) (request : Http.Request)
    (files
      : ∀ report,
          (jsonBody? request).bind (Report.ofTree? Json.maxOpenBrackets) = some report
          → ∀ front,
              holds front
              → holds
                  (Front.putReport
                    (stamp report context.now ((presentedKey request).getD "")
                      (callerAddress request))
                    front).2)
    : Matches (IsOne holds) Eq (checkIn context request) (checkIn context request) := by
  have uniform := isOne_uniform keeps
  unfold checkIn
  refine .bindSame (requireKey_matches (fun key => uniform (.validateKey key false) nofun) request)
    fun _ => ?_
  refine .requiring fun report read => .guard _ _ ?_
  refine .bindSame (.ask ?_) fun _ => ?_
  · intro front _ one
    obtain ⟨rfl, held⟩ := one
    exact ⟨rfl, rfl, files report read front held⟩
  · exact .bindSame (.ask (uniform .listRelays nofun)) fun relays => .pure rfl

/-- Whatever every request to the store keeps that does not file a report, every request to the
service keeps, if filing the report that it brings keeps it too.
-/
theorem handle_keeps_filing (context : Context) (request : Http.Request)
    (files
      : ∀ report,
          (jsonBody? (request.decoded context.decoders)).bind (Report.ofTree? Json.maxOpenBrackets)
            = some report
          → ∀ front,
              holds front
              → holds
                  (Front.putReport
                    (stamp report context.now
                      ((presentedKey (request.decoded context.decoders)).getD "")
                      (callerAddress (request.decoded context.decoders)))
                    front).2)
    {front : Front} (held : holds front)
    : holds (handle context request front).front := by
  have one : IsOne holds front front := ⟨rfl, held⟩
  unfold handle
  cases Route.ofPath? request.uri.path with
  | none => exact held
  | some route =>
      by_cases checksIn : route = .report ∧ request.method = "POST"
      · obtain ⟨rfl, posted⟩ := checksIn
        have checked := ExchangesMatch.answerWith one
          (checkIn_matches_isOne keeps context (request.decoded context.decoders) files)
        simp only [answerRoute, posted, beq_self_eq_true, if_true]
        exact checked.front.2
      · exact (answerRoute_matches (isOne_uniform keeps) one context context.draw request
          fun report posted => checksIn ⟨report, posted⟩).front.2

end

/-- Whatever every request to the store keeps, every request to the service keeps. -/
theorem handle_keeps {holds : Front → Prop}
    (keeps : ∀ (request : StoreRequest) front, holds front → holds (request.perform front).2)
    (context : Context) (request : Http.Request) {front : Front} (held : holds front)
    : holds (handle context request front).front :=
  handle_keeps_filing (fun request _ => keeps request) context request
    (fun _ _ => keeps (.putReport _)) held

end FleetOps.Service

namespace FleetOps

-----------------------------------------------------------------------------------------
-- Stores that answer by their contents
-----------------------------------------------------------------------------------------

/-- The backend does not fail, what it has is filed under its own name, and the cache, if there is
one, is in step with it.
-/
structure Front.InStep (front : Front) : Prop where
  filed : front.memory.Filed
  behind
    : front.IsPlain front.memory
      ∨ ∃ cache, front.Holds cache front.memory ∧ cache.InStep front.memory

namespace Front.InStep

variable {front : Front}

/-- A store of its own is in step with its contents from the start. -/
theorem plain {memory : Memory} (filed : memory.Filed) : (Front.plain memory).InStep :=
  ⟨filed, .inl (plain_isPlain memory)⟩

/-- A store with an empty cache is in step with its contents. -/
theorem freshlyCached {memory : Memory} (filed : memory.Filed)
    : (Front.freshlyCached memory).InStep :=
  ⟨filed, .inr ⟨_, freshlyCached_holds memory, .empty filed⟩⟩

/-- A store in step with its contents is in working order. -/
theorem works (step : front.InStep) : front.Works := by
  rcases step.behind with plain | ⟨cache, holds, _⟩
  · exact plain.works
  · exact holds.works

/-- Every request is answered by the contents and leaves the store in step with them. -/
theorem perform (step : front.InStep) (request : StoreRequest)
    : (request.perform front).1 = .ok (request.onMemory front.memory).1
      ∧ (request.perform front).2.memory = (request.onMemory front.memory).2
      ∧ (request.perform front).2.InStep := by
  have filed := step.filed.onMemory request
  rcases step.behind with plain | ⟨cache, holds, inStep⟩
  · obtain ⟨answer, later⟩ := plain.perform request
    have changed := later.memory_eq
    exact ⟨answer, changed, changed ▸ filed, .inl (changed ▸ later)⟩
  · obtain ⟨answer, later⟩ := holds.perform request
    have changed := later.memory_eq
    rw [inStep.answer] at answer
    exact ⟨answer, changed, changed ▸ filed,
      .inr ⟨_, changed ▸ later, changed ▸ inStep.after request⟩⟩

/-- Requests to the service keep the store in step with its contents. -/
theorem handle (step : front.InStep) (context : Service.Context) (request : Http.Request)
    : (Service.handle context request front).front.InStep :=
  Service.handle_keeps (fun request _ held => (held.perform request).2.2) context request step

end Front.InStep

-----------------------------------------------------------------------------------------
-- Stores behind the service
-----------------------------------------------------------------------------------------

/-- A store as the service may find it: it was started from contents that are filed, with a cache or
without one; it has been visited, through its cache or behind it, and used by the service; and its
backend may have begun or stopped to fail.
-/
inductive Front.Reachable : Front → Prop
  | plain {memory : Memory} (filed : memory.Filed) : Reachable (.plain memory)
  | freshlyCached {memory : Memory} (filed : memory.Filed) : Reachable (.freshlyCached memory)
  | visited {front : Front} (reachable : Reachable front) (visit : Visit)
    : Reachable (front.visit visit).2
  | served {front : Front} (reachable : Reachable front) (context : Service.Context)
    (request : Http.Request)
    : Reachable (Service.handle context request front).front
  | disturbed {front : Front} (reachable : Reachable front)
    (outages : List (StoreMethod × String))
    : Reachable (front.withBackend { front.backend with outages := outages })

/-- All that a reachable store knows is filed under its own name, by induction on how it came about.
-/
theorem Front.Reachable.named {front : Front} (reachable : front.Reachable) : front.Named := by
  induction reachable with
  | plain filed => exact .plain filed
  | freshlyCached filed => exact .freshlyCached filed
  | visited _ visit named => exact named.visit visit
  | served _ context request named =>
      exact Service.handle_keeps (fun request _ held => held.perform request) context request named
  | disturbed _ outages named => exact named.withBackend named.filed

end FleetOps
