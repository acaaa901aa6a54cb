import FleetOps.Proofs.Table
import FleetOps.Store.Request

/-! What each request does to a store: to one without a cache, and to the cache and the contents
of one with a cache. While the backend works the contents change in the same way in both.
-/

namespace FleetOps

-----------------------------------------------------------------------------------------
-- Calls of the backend
-----------------------------------------------------------------------------------------

namespace Backend

variable {α : Type} {backend : Backend} {method : StoreMethod}

/-- A call that fails is counted, and nothing else. -/
theorem call_fails {fault : StoreFault} (fails : backend.fault? method = some fault)
    (act : Memory → α × Memory)
    : backend.call method act
      = (.error fault, { backend with calls := method :: backend.calls }) := by
  simp [call, fails]

/-- A call that has no fault is counted, and does what it is called for. -/
theorem call_serves (serves : backend.fault? method = none) (act : Memory → α × Memory)
    : backend.call method act
      = (.ok (act backend.memory).1,
          { backend with
            calls := method :: backend.calls
            memory := (act backend.memory).2 }) := by
  simp [call, serves]

/-- A backend without outages has no faults. -/
theorem fault?_works (works : backend.outages = []) (method : StoreMethod)
    : backend.fault? method = none := by
  simp [fault?, works]

/-- A backend in working order does what it is called for. -/
theorem call_works (works : backend.outages = []) (method : StoreMethod)
    (act : Memory → α × Memory)
    : backend.call method act
      = (.ok (act backend.memory).1,
          { backend with
            calls := method :: backend.calls
            memory := (act backend.memory).2 }) :=
  call_serves (fault?_works works method) act

/-- The backend fails at none of the methods. -/
def Serves (backend : Backend) (methods : List StoreMethod) : Prop :=
  ∀ method ∈ methods, backend.fault? method = none

/-- A backend serves no calls at all. -/
theorem serves_nil : backend.Serves [] := by simp [Serves]

/-- A backend serves calls if it serves the first one and then the others. -/
theorem serves_cons {methods : List StoreMethod}
    : backend.Serves (method :: methods)
      ↔ backend.fault? method = none ∧ backend.Serves methods := by
  simp [Serves]

/-- A backend serves a single call if the method has no fault. -/
theorem serves_singleton : backend.Serves [method] ↔ backend.fault? method = none := by
  simp [Serves]

end Backend

-----------------------------------------------------------------------------------------
-- Stores without a cache
-----------------------------------------------------------------------------------------

/-- The method that answers a request. -/
def StoreRequest.method : StoreRequest → StoreMethod
  | .validateKey _ _ => .validateKey
  | .listKeys => .listKeys
  | .putKey _ => .putKey
  | .listRelays => .listRelays
  | .getRelay _ => .getRelay
  | .putRelay _ => .putRelay
  | .putReport _ => .putReport
  | .countReports => .countReports
  | .listReports _ _ _ _ _ => .listReports
  | .listByCustomId _ _ _ _ => .listByCustomId
  | .getReport _ => .getReport
  | .deleteReport _ => .deleteReport
  | .listHistory _ => .listHistory
  | .getSession _ => .getSession
  | .putSession _ => .putSession
  | .deleteSession _ => .deleteSession

/-- Without a cache a request is a call of its method. -/
theorem StoreRequest.perform_call (request : StoreRequest) (backend : Backend)
    : request.perform (.direct backend)
      = ((backend.call request.method request.onMemory).1,
          .direct (backend.call request.method request.onMemory).2) := by
  cases request <;> rfl

/-- The front is a working backend with the given contents, and no cache. -/
def Front.IsPlain (front : Front) (memory : Memory) : Prop :=
  ∃ backend, front = .direct backend ∧ backend.memory = memory ∧ backend.outages = []

/-- The contents of a plain store are what it is said to hold. -/
theorem Front.IsPlain.memory_eq {front : Front} {memory : Memory} (plain : front.IsPlain memory)
    : front.memory = memory := by
  obtain ⟨backend, rfl, contents, _⟩ := plain
  exact contents

/-- A store of its own is plain. -/
theorem Front.plain_isPlain (memory : Memory) : (Front.plain memory).IsPlain memory :=
  ⟨_, rfl, rfl, rfl⟩

/-- Without a cache every request is answered by the contents. -/
theorem Front.IsPlain.perform {front : Front} {memory : Memory} (plain : front.IsPlain memory)
    (request : StoreRequest)
    : (request.perform front).1 = .ok (request.onMemory memory).1
      ∧ (request.perform front).2.IsPlain (request.onMemory memory).2 := by
  obtain ⟨backend, rfl, rfl, works⟩ := plain
  rw [request.perform_call, Backend.call_works works]
  exact ⟨rfl, _, rfl, rfl, works⟩

-----------------------------------------------------------------------------------------
-- Stores with a cache
-----------------------------------------------------------------------------------------

namespace Cache

/-- The cache after a check of a key. -/
def check (cache : Cache) (memory : Memory) (key : String) (admin : Bool) : Cache :=
  if cache.knows admin key then cache
  else if memory.acceptsKey key admin then cache.remember admin key
  else cache

/-- The cache once its relays are loaded. -/
def load (cache : Cache) (memory : Memory) : Cache :=
  if cache.loaded then cache
  else
    { cache with
      relays := cache.relays.insertAll (·.host) memory.relays.values
      loaded := true }

/-- The cache after a relay was looked for that it may not have. -/
def fetch (cache : Cache) (memory : Memory) (host : String) : Cache :=
  match cache.relays.get? host, memory.relays.get? host with
  | none, some relay => cache.takeRelay relay
  | _, _ => cache

section

variable (cache : Cache) (memory : Memory) (admin other : Bool) (key name : String)

@[simp] theorem knows_empty : empty.knows admin key = false := by
  cases admin <;> rfl

/-- A cache that is told of a key knows it, and what it knew before. -/
theorem knows_remember
    : (cache.remember admin key).knows other name
      = (decide (other = admin ∧ name = key) || cache.knows other name) := by
  cases admin <;> cases other <;> simp [remember, knows]

/-- A cache that forgets a key knows what it knew before, but not that one. -/
theorem knows_forget
    : (cache.forget admin key).knows other name
      = (cache.knows other name && !decide (other = admin ∧ name = key)) := by
  cases admin <;> cases other <;> simp [forget, knows]

/-- A relay that is taken over changes nothing about the keys. -/
@[simp] theorem knows_takeRelay (relay : Relay)
    : (cache.takeRelay relay).knows admin key = cache.knows admin key := rfl

/-- Loading the relays changes nothing about the keys. -/
@[simp] theorem knows_load : (cache.load memory).knows admin key = cache.knows admin key := by
  simp only [load]
  split <;> rfl

/-- Fetching a relay changes nothing about the keys. -/
@[simp] theorem knows_fetch (host : String)
    : (cache.fetch memory host).knows admin key = cache.knows admin key := by
  simp only [fetch]
  split <;> rfl

end

end Cache

/-- What a cache in front of the contents answers. -/
def StoreRequest.cachedAnswer : (request : StoreRequest) → Cache → Memory → request.Answer
  | validateKey key admin, cache, memory =>
      cache.knows admin key || memory.acceptsKey key admin
  | listRelays, cache, memory => (cache.load memory).relays.values
  | getRelay host, cache, memory =>
      ((cache.load memory).relays.get? host).or (memory.relays.get? host)
  | request, _, memory => (request.onMemory memory).1

/-- The cache after a request. -/
def StoreRequest.cacheAfter : StoreRequest → Cache → Memory → Cache
  | validateKey key admin, cache, memory => cache.check memory key admin
  | putKey apiKey, cache, _ => (cache.forget false apiKey.key).forget true apiKey.key
  | listRelays, cache, memory => cache.load memory
  | getRelay host, cache, memory => (cache.load memory).fetch memory host
  | putRelay relay, cache, _ => cache.takeRelay relay
  | _, cache, _ => cache

-----------------------------------------------------------------------------------------
-- Operations of a cache
-----------------------------------------------------------------------------------------

/-- The call of the backend that loads the relays, unless they are loaded. -/
def Cache.loading (cache : Cache) : List StoreMethod :=
  if cache.loaded then [] else [.listRelays]

namespace Cached

/-- How an operation ends that makes the calls `wants` of the backend, the latest first, as long
as they are served. If all are, it gives a value and leaves a cache and contents. With the first
one that is not it fails, and leaves the contents alone.
-/
inductive Ends {α : Type} (state : Cached) (wants : List StoreMethod) (value : α)
    (after : Cache) (memory : Memory) (lapsed : Cache)
    : Except StoreFault α × Cached → Prop
  | done (serves : state.backend.Serves wants)
    : Ends state wants value after memory lapsed
        (.ok value,
          {
            cache := after
            backend :=
              { state.backend with memory := memory, calls := wants ++ state.backend.calls }
          })
  | failed {method : StoreMethod} {made : List StoreMethod} {fault : StoreFault}
    (begun : method :: made <:+ wants) (serves : state.backend.Serves made)
    (fails : state.backend.fault? method = some fault)
    : Ends state wants value after memory lapsed
        (.error fault,
          {
            cache := lapsed
            backend := { state.backend with calls := method :: made ++ state.backend.calls }
          })

variable {state : Cached}

/-- A check asks the backend only about a key that the cache does not know. -/
theorem validateKey_ends (key : String) (admin : Bool)
    : state.Ends (if state.cache.knows admin key then [] else [.validateKey])
        (state.cache.knows admin key || state.backend.memory.acceptsKey key admin)
        (state.cache.check state.backend.memory key admin) state.backend.memory state.cache
        (state.run (Cache.validateKey admin key)) := by
  simp only [run, Cache.validateKey, Program.run, perform, Cache.check]
  cases known : state.cache.knows admin key with
  | true => exact .done Backend.serves_nil
  | false =>
      simp only [Program.run, perform, Backend.read]
      cases fails : state.backend.fault? .validateKey with
      | some fault =>
          rw [Backend.call_fails fails]
          exact .failed List.suffix_rfl Backend.serves_nil fails
      | none =>
          rw [Backend.call_serves fails]
          cases accepted : state.backend.memory.acceptsKey key admin with
          | true => exact .done (Backend.serves_singleton.mpr fails)
          | false => exact .done (Backend.serves_singleton.mpr fails)

/-- Putting a key makes the cache forget it at both levels, whether the put succeeds or not. -/
theorem putKey_ends (apiKey : ApiKey)
    : state.Ends [.putKey] () ((state.cache.forget false apiKey.key).forget true apiKey.key)
        (state.backend.memory.putKey apiKey)
        ((state.cache.forget false apiKey.key).forget true apiKey.key)
        (state.run (Cache.putKey apiKey)) := by
  simp only [run, Cache.putKey, Program.run, perform, Backend.write]
  cases fails : state.backend.fault? .putKey with
  | some fault =>
      rw [Backend.call_fails fails]
      exact .failed List.suffix_rfl Backend.serves_nil fails
  | none =>
      rw [Backend.call_serves fails]
      exact .done (Backend.serves_singleton.mpr fails)

/-- Relays are taken over one after another, by induction over them. -/
theorem run_cacheRelays {α : Type} (next : Cache.Operation α) (relays : List Relay)
    (state : Cached)
    : state.run (Cache.cacheRelays next relays)
      = Cached.run next
          { state with
            cache :=
              { state.cache with
                relays := state.cache.relays.insertAll (·.host) relays } } := by
  induction relays generalizing state with
  | nil => rfl
  | cons relay rest ih => exact ih _

/-- The store once its relays are loaded. -/
def loaded (state : Cached) : Cached :=
  {
    cache := state.cache.load state.backend.memory
    backend := { state.backend with calls := state.cache.loading ++ state.backend.calls }
  }

/-- Loading the relays changes nothing about the contents. -/
theorem loaded_memory : state.loaded.backend.memory = state.backend.memory := rfl

/-- The cache after relays were wanted that could not be had. They are loaded nevertheless if it
was not the loading that failed.
-/
def cacheWanting (state : Cached) : Cache :=
  if state.cache.loaded || (state.backend.fault? .listRelays).isNone then state.loaded.cache
  else state.cache

/-- What follows the loading finds the store loaded, unless the backend fails to list the relays.
-/
theorem run_afterLoading (state : Cached)
    : state.backend.Serves state.cache.loading
        ∧ state.cacheWanting = state.loaded.cache
        ∧ (∀ {α : Type} (next : Cache.Operation α),
            state.run (Cache.afterLoading next) = state.loaded.run next)
      ∨ ∃ fault,
          state.cache.loading = [.listRelays]
          ∧ state.cacheWanting = state.cache
          ∧ state.backend.fault? .listRelays = some fault
          ∧ ∀ {α : Type} (next : Cache.Operation α),
              state.run (Cache.afterLoading next)
              = (.error fault,
                  { state with
                    backend :=
                      { state.backend with calls := .listRelays :: state.backend.calls } }) := by
  cases already : state.cache.loaded with
  | true =>
      refine .inl ⟨?_, ?_, fun next => ?_⟩
      · simp [Cache.loading, already, Backend.serves_nil]
      · simp [cacheWanting, already]
      · simp [run, Cache.afterLoading, Program.run, perform, already, loaded, Cache.load,
          Cache.loading]
  | false =>
      simp only [run, Cache.afterLoading, Program.run, perform, already, Backend.read]
      cases fails : state.backend.fault? .listRelays with
      | some fault =>
          refine .inr ⟨fault, ?_, ?_, rfl, fun next => ?_⟩
          · simp [Cache.loading, already]
          · simp [cacheWanting, already, fails]
          · rw [Backend.call_fails fails]
            rfl
      | none =>
          refine .inl ⟨?_, ?_, fun next => ?_⟩
          · simp [Cache.loading, already, Backend.serves_singleton, fails]
          · simp [cacheWanting, fails]
          · rw [Backend.call_serves fails]
            refine (run_cacheRelays _ _ _).trans ?_
            simp [run, Program.run, perform, loaded, Cache.load, Cache.loading, already]

/-- Listing the relays loads them first, if they are not loaded yet. -/
theorem listRelays_ends
    : state.Ends state.cache.loading state.loaded.cache.relays.values state.loaded.cache
        state.backend.memory state.cacheWanting (state.run Cache.listRelays) := by
  rw [Cache.listRelays]
  rcases state.run_afterLoading with
    ⟨serves, _, goesOn⟩ | ⟨fault, loads, kept, fails, stops⟩
  · rw [goesOn]
    exact .done serves
  · rw [stops, kept, loads]
    exact .failed List.suffix_rfl Backend.serves_nil fails

/-- A relay is looked for among those loaded, and then asked of the backend. -/
theorem getRelay_ends (host : String)
    : state.Ends
        (if (state.loaded.cache.relays.get? host).isSome then state.cache.loading
        else .getRelay :: state.cache.loading)
        ((state.loaded.cache.relays.get? host).or (state.backend.memory.relays.get? host))
        (state.loaded.cache.fetch state.backend.memory host) state.backend.memory
        state.cacheWanting (state.run (Cache.getRelay host)) := by
  rw [Cache.getRelay]
  rcases state.run_afterLoading with
    ⟨serves, kept, goesOn⟩ | ⟨fault, loads, kept, fails, stops⟩
  · rw [goesOn, kept]
    simp only [run, Program.run, perform, Cache.fetch]
    cases hit : state.loaded.cache.relays.get? host with
    | some relay => exact .done serves
    | none =>
        simp only [Program.run, perform, Backend.read]
        cases fails : state.loaded.backend.fault? .getRelay with
        | some fault =>
            rw [Backend.call_fails fails]
            exact .failed List.suffix_rfl serves fails
        | none =>
            have all := Backend.serves_cons.mpr ⟨fails, serves⟩
            rw [Backend.call_serves fails, loaded_memory]
            cases found : state.backend.memory.relays.get? host with
            | some relay => exact .done all
            | none => exact .done all
  · rw [stops, kept, loads]
    refine .failed ?_ Backend.serves_nil fails
    split
    · exact List.suffix_rfl
    · exact List.suffix_cons _ _

/-- Putting a relay takes it over once the backend has it. -/
theorem putRelay_ends (relay : Relay)
    : state.Ends [.putRelay] () (state.cache.takeRelay relay)
        (state.backend.memory.putRelay relay) state.cache
        (state.run (Cache.putRelay relay)) := by
  simp only [run, Cache.putRelay, Program.run, perform, Backend.write]
  cases fails : state.backend.fault? .putRelay with
  | some fault =>
      rw [Backend.call_fails fails]
      exact .failed List.suffix_rfl Backend.serves_nil fails
  | none =>
      rw [Backend.call_serves fails]
      exact .done (Backend.serves_singleton.mpr fails)

/-- The outcome of an operation over a working backend: its value, and the cache and the
contents that it leaves.
-/
structure Gives {α : Type} (result : Except StoreFault α × Cached) (value : α) (cache : Cache)
    (memory : Memory) : Prop where
  answer : result.1 = .ok value
  cache : result.2.cache = cache
  memory : result.2.backend.memory = memory
  works : result.2.backend.outages = []

/-- Over a working backend every operation gives its value. -/
theorem Ends.gives {α : Type} {wants : List StoreMethod} {value : α} {after lapsed : Cache}
    {memory : Memory} {result : Except StoreFault α × Cached}
    (ends : state.Ends wants value after memory lapsed result)
    (works : state.backend.outages = [])
    : Gives result value after memory := by
  cases ends with
  | done serves => exact ⟨rfl, rfl, rfl, works⟩
  | @failed method made fault begun serves fails =>
      rw [Backend.fault?_works works] at fails
      cases fails

end Cached

/-- The front is a cache before a working backend with the given contents. -/
def Front.Holds (front : Front) (cache : Cache) (memory : Memory) : Prop :=
  ∃ state, front = .cached state ∧ state.cache = cache ∧ state.backend.memory = memory
    ∧ state.backend.outages = []

namespace Front

variable {front : Front} {cache : Cache} {memory : Memory}

/-- The contents of a cached store are what it is said to hold. -/
theorem Holds.memory_eq (holds : front.Holds cache memory) : front.memory = memory := by
  obtain ⟨state, rfl, _, contents, _⟩ := holds
  exact contents

/-- A freshly cached store holds its contents behind an empty cache. -/
theorem freshlyCached_holds (memory : Memory)
    : (Front.freshlyCached memory).Holds .empty memory :=
  ⟨_, rfl, rfl, rfl, rfl⟩

/-- A request that goes through the cache has the outcome of its operation. -/
theorem Holds.through {α : Type} {operation : Cache.Operation α}
    {act : Backend → Except StoreFault α × Backend} {state : Cached} {value : α}
    (gives : Cached.Gives (state.run operation) value cache memory)
    : (Front.through operation act (.cached state)).1 = .ok value
      ∧ (Front.through operation act (.cached state)).2.Holds cache memory :=
  ⟨gives.answer, _, rfl, gives.cache, gives.memory, gives.works⟩

/-- With a cache five requests go through it and all others to the contents, by cases on the
requests.
-/
theorem Holds.perform (holds : front.Holds cache memory) (request : StoreRequest)
    : (request.perform front).1 = .ok (request.cachedAnswer cache memory)
      ∧ (request.perform front).2.Holds (request.cacheAfter cache memory)
          (request.onMemory memory).2 := by
  obtain ⟨state, rfl, rfl, rfl, works⟩ := holds
  cases request with
  | validateKey key admin =>
      rw [StoreRequest.perform, Front.validateKey]
      exact Holds.through ((Cached.validateKey_ends key admin).gives works)
  | putKey apiKey =>
      rw [StoreRequest.perform, Front.putKey]
      exact Holds.through ((Cached.putKey_ends apiKey).gives works)
  | listRelays =>
      rw [StoreRequest.perform, Front.listRelays]
      exact Holds.through (Cached.listRelays_ends.gives works)
  | getRelay host =>
      rw [StoreRequest.perform, Front.getRelay]
      exact Holds.through ((Cached.getRelay_ends host).gives works)
  | putRelay relay =>
      rw [StoreRequest.perform, Front.putRelay]
      exact Holds.through ((Cached.putRelay_ends relay).gives works)
  | _ =>
      simp only [StoreRequest.perform, Front.listKeys, Front.putReport, Front.countReports,
        Front.listReports, Front.listByCustomId, Front.getReport, Front.deleteReport,
        Front.listHistory, Front.getSession, Front.putSession, Front.deleteSession, onBackend,
        Front.backend, withBackend, Backend.read, Backend.write, Backend.call_works works]
      exact ⟨rfl, _, rfl, rfl, rfl, works⟩

end Front

end FleetOps
