import FleetOps.Proofs.Store.Named
import FleetOps.Proofs.Store.Refinement

/-! A store with a cache whose backend may fail at any call. Whatever has failed before, a request
is answered from the contents as they are, or it fails and changes nothing but what the cache holds
of them.
-/

namespace FleetOps

-----------------------------------------------------------------------------------------
-- Requests to a backend that may fail
-----------------------------------------------------------------------------------------

/-- A call that does not go through the cache is served or fails. -/
theorem Cached.call_ends {α : Type} (state : Cached) (method : StoreMethod)
    (act : Memory → α × Memory)
    : state.Ends [method] (act state.backend.memory).1 state.cache (act state.backend.memory).2
        state.cache
        ((state.backend.call method act).1,
          { state with backend := (state.backend.call method act).2 }) := by
  cases fails : state.backend.fault? method with
  | some fault =>
      rw [Backend.call_fails fails]
      exact .failed List.suffix_rfl Backend.serves_nil fails
  | none =>
      rw [Backend.call_serves fails]
      exact .done (Backend.serves_singleton.mpr fails)

namespace StoreRequest

/-- The calls of the backend that a request makes as long as they are served, the latest first. -/
def wants : StoreRequest → Cached → List StoreMethod
  | validateKey key admin, state =>
      if state.cache.knows admin key then [] else [.validateKey]
  | listRelays, state => state.cache.loading
  | getRelay host, state =>
      if (state.loaded.cache.relays.get? host).isSome then state.cache.loading
      else .getRelay :: state.cache.loading
  | request, _ => [request.method]

/-- The cache after a request that failed. -/
def cacheLapsed : StoreRequest → Cached → Cache
  | putKey apiKey, state => (state.cache.forget false apiKey.key).forget true apiKey.key
  | listRelays, state => state.cacheWanting
  | getRelay _, state => state.cacheWanting
  | _, state => state.cache

/-- No request calls a method of the backend twice. -/
theorem wants_nodup (request : StoreRequest) (state : Cached) : (request.wants state).Nodup := by
  cases request with
  | validateKey key admin =>
      simp only [wants]
      split <;> simp
  | listRelays =>
      simp only [wants, Cache.loading]
      split <;> simp
  | getRelay host =>
      simp only [wants, Cache.loading]
      split <;> split <;> simp
  | _ => exact List.nodup_singleton _

/-- With a cache every request ends with the calls that it wants, by cases on the requests. -/
theorem perform_ends (request : StoreRequest) (state : Cached)
    : ∃ later,
        (request.perform (.cached state)).2 = .cached later
        ∧ state.Ends (request.wants state)
            (request.cachedAnswer state.cache state.backend.memory)
            (request.cacheAfter state.cache state.backend.memory)
            (request.onMemory state.backend.memory).2 (request.cacheLapsed state)
            ((request.perform (.cached state)).1, later) := by
  cases request with
  | validateKey key admin => exact ⟨_, rfl, Cached.validateKey_ends key admin⟩
  | putKey apiKey => exact ⟨_, rfl, Cached.putKey_ends apiKey⟩
  | listRelays => exact ⟨_, rfl, Cached.listRelays_ends⟩
  | getRelay host => exact ⟨_, rfl, Cached.getRelay_ends host⟩
  | putRelay relay => exact ⟨_, rfl, Cached.putRelay_ends relay⟩
  | _ => exact ⟨_, rfl, state.call_ends _ _⟩

/-- With a cache or without, a request that is answered changes the contents as it does by itself,
and one that fails leaves them as they were.
-/
theorem perform_memory (request : StoreRequest) (front : Front)
    : match (request.perform front).1 with
      | .ok _ => (request.perform front).2.memory = (request.onMemory front.memory).2
      | .error _ => (request.perform front).2.memory = front.memory := by
  cases front with
  | direct backend =>
      rw [perform_call]
      cases fails : backend.fault? request.method with
      | some fault =>
          rw [Backend.call_fails fails]
          rfl
      | none =>
          rw [Backend.call_serves fails]
          rfl
  | cached state =>
      obtain ⟨later, left, ends⟩ := request.perform_ends state
      rw [left]
      generalize (request.perform (.cached state)).1 = answer at ends ⊢
      cases ends with
      | done serves => rfl
      | failed begun serves fails => rfl

end StoreRequest

namespace Cache.InStep

variable {cache : Cache} {memory : Memory} {state : Cached}

/-- A loaded cache in step has all relays of the contents. -/
theorem relays_eq (step : cache.InStep memory) (loaded : cache.loaded = true)
    : cache.relays = memory.relays := by
  obtain ⟨view, shows, whole⟩ := step.relays
  rw [← shows.contents] at whole
  rw [← whole, ← shows.load_relays, Cache.load, if_pos loaded]

/-- Forgetting a key keeps the cache in step. -/
theorem forget (step : cache.InStep memory) (admin : Bool) (key : String)
    : (cache.forget admin key).InStep memory where
  filed := step.filed
  known := by
    intro name other knows
    rw [knows_forget, Bool.and_eq_true] at knows
    exact step.known name other knows.1
  relays := by
    obtain ⟨view, shows, whole⟩ := step.relays
    have same : (cache.forget admin key).relays = cache.relays
        ∧ (cache.forget admin key).loaded = cache.loaded := by
      cases admin <;> exact ⟨rfl, rfl⟩
    exact ⟨view, shows.of_relays_eq rfl same.1 same.2, whole⟩

/-- What a failed request leaves in the cache is in step with the contents, by cases on the
requests.
-/
theorem lapsed (step : state.cache.InStep state.backend.memory) (request : StoreRequest)
    : (request.cacheLapsed state).InStep state.backend.memory := by
  have wanting : state.cacheWanting.InStep state.backend.memory := by
    unfold Cached.cacheWanting
    split
    · exact step.after .listRelays
    · exact step
  cases request with
  | putKey apiKey => exact (step.forget false apiKey.key).forget true apiKey.key
  | listRelays => exact wanting
  | getRelay host => exact wanting
  | _ => exact step

end Cache.InStep

-----------------------------------------------------------------------------------------
-- When relays are loaded
-----------------------------------------------------------------------------------------

namespace StoreRequest

variable {request : StoreRequest} {state : Cached}

/-- The relays are loaded after a request exactly if they were or it reads relays. -/
theorem loaded_cacheAfter (request : StoreRequest) (cache : Cache) (memory : Memory)
    : (request.cacheAfter cache memory).loaded = true
      ↔ cache.loaded = true ∨ request.ReadsRelays := by
  cases request with
  | validateKey key admin =>
      simp [cacheAfter, ReadsRelays, (Cache.Shows.check_relays cache memory key admin).2]
  | listRelays => simp [cacheAfter, ReadsRelays, Cache.Shows.load_loaded]
  | getRelay host =>
      have fetched : ((cache.load memory).fetch memory host).loaded = true := by
        unfold Cache.fetch
        split <;> exact Cache.Shows.load_loaded cache memory
      simp [cacheAfter, ReadsRelays, fetched]
  | _ => simp [cacheAfter, ReadsRelays, Cache.forget, Cache.takeRelay]

/-- After a request that fails the relays are loaded if they were, or if it could list them. -/
theorem loaded_cacheLapsed (request : StoreRequest) (state : Cached)
    : (request.cacheLapsed state).loaded = true
      ↔ state.cache.loaded = true
        ∨ request.ReadsRelays ∧ state.backend.fault? .listRelays = none := by
  have wanting
      : state.cacheWanting.loaded = true
        ↔ state.cache.loaded = true ∨ state.backend.fault? .listRelays = none := by
    unfold Cached.cacheWanting
    split
    next loads => simpa [Cached.loaded, Cache.Shows.load_loaded] using loads
    next unloaded =>
      simp only [Bool.or_eq_true, not_or, Option.isNone_iff_eq_none] at unloaded
      simp [unloaded]
  cases request with
  | listRelays => simpa [cacheLapsed, ReadsRelays] using wanting
  | getRelay host => simpa [cacheLapsed, ReadsRelays] using wanting
  | _ => simp [cacheLapsed, ReadsRelays, Cache.forget]

/-- A request that reads relays wants them to be loaded. -/
theorem loading_suffix_wants (reads : request.ReadsRelays)
    : state.cache.loading <:+ request.wants state := by
  rcases reads with rfl | ⟨host, rfl⟩
  · exact List.suffix_rfl
  · simp only [wants]
    split
    · exact List.suffix_rfl
    · exact List.suffix_cons _ _

/-- The first call of a request that reads relays loads them, unless they are loaded. -/
theorem listRelays_mem {made : List StoreMethod} (reads : request.ReadsRelays)
    (unloaded : state.cache.loaded = false) (begun : made <:+ request.wants state)
    (nonempty : made ≠ [])
    : StoreMethod.listRelays ∈ made := by
  have loading : state.cache.loading = [.listRelays] := by simp [Cache.loading, unloaded]
  have loads := @loading_suffix_wants request state reads
  rw [loading] at loads
  rcases List.suffix_or_suffix_of_suffix loads begun with inside | around
  · exact inside.mem List.mem_cons_self
  · obtain ⟨earlier, split⟩ := around
    rcases List.singleton_eq_append_iff.mp split.symm with ⟨_, same⟩ | ⟨_, empty⟩
    · exact same ▸ List.mem_cons_self
    · exact absurd empty nonempty

end StoreRequest

-----------------------------------------------------------------------------------------
-- Runs amid outages
-----------------------------------------------------------------------------------------

/-- A request to a store, and the methods that the backend fails at while it is made. -/
structure StoreAttempt where
  outages : List (StoreMethod × String)
  request : StoreRequest

namespace Front

/-- The store with a backend that fails at some methods. -/
def amid (front : Front) (outages : List (StoreMethod × String)) : Front :=
  front.withBackend { front.backend with outages := outages }

/-- The store after some attempts. -/
def afterAttempts (front : Front) (attempts : List StoreAttempt) : Front :=
  attempts.foldl
    (fun front attempt => (attempt.request.perform (front.amid attempt.outages)).2) front

/-- Whether the store gives out relays that it has loaded. -/
def relaysLoaded : Front → Bool
  | direct _ => false
  | cached state => state.cache.loaded

/-- How a store copes with a request while its backend fails at some methods. The backend is called
for each method at most once, so that a choice of methods is one of single calls, and the request
fails exactly if one of the calls does. An answer is what the contents answer, which change as they
do by themselves; a request that fails changes nothing of them. Relays stay to be loaded until they
are wanted while the backend lists them, and then all of them are there.
-/
structure Copes (front : Front) (request : StoreRequest) : Prop where
  calls
    : ∃ made : List StoreMethod,
        (request.perform front).2.backend.calls = made ++ front.backend.calls
        ∧ made.Nodup
        ∧ ((∃ fault, (request.perform front).1 = .error fault)
          ↔ ∃ method ∈ made, front.backend.fault? method ≠ none)
  done
    : ∀ answer,
        (request.perform front).1 = .ok answer
        → (request.perform (plain front.memory)).1 = .ok answer
          ∧ (request.perform front).2.memory = (request.perform (plain front.memory)).2.memory
  failed
    : ∀ fault,
        (request.perform front).1 = .error fault → (request.perform front).2.memory = front.memory
  unloaded
    : ∀ fault,
        request.ReadsRelays
        → front.relaysLoaded = false
        → front.backend.fault? .listRelays = some fault
        → (request.perform front).1 = .error fault
  loaded
    : (request.perform front).2.relaysLoaded = true
      ↔ front.relaysLoaded = true
        ∨ request.ReadsRelays ∧ front.backend.fault? .listRelays = none
  whole
    : (request.perform front).2.relaysLoaded = true
      → (request.perform front).2.relaysInView
        = (request.perform front).2.memory.relays.values

section

variable {request : StoreRequest} {state later : Cached}

/-- A request all of whose calls are served is answered by the contents. -/
theorem Copes.of_done (step : state.cache.InStep state.backend.memory)
    (serves : state.backend.Serves (request.wants state))
    (performed
      : request.perform (.cached state)
        = (.ok (request.cachedAnswer state.cache state.backend.memory),
            .cached
              {
                cache := request.cacheAfter state.cache state.backend.memory
                backend :=
                  { state.backend with
                    memory := (request.onMemory state.backend.memory).2
                    calls := request.wants state ++ state.backend.calls }
              }))
    : (cached state).Copes request := by
  obtain ⟨answered, changed⟩ := (plain_isPlain state.backend.memory).perform request
  have listed (reads : request.ReadsRelays) (unloaded : state.cache.loaded = false)
      : state.backend.fault? .listRelays = none := by
    refine serves _ ((StoreRequest.loading_suffix_wants reads).mem ?_)
    simp [Cache.loading, unloaded]
  exact {
    calls := by
      rw [performed]
      refine ⟨request.wants state, rfl, request.wants_nodup state, ?_⟩
      constructor
      · intro failed
        obtain ⟨fault, failed⟩ := failed
        cases failed
      · intro unserved
        obtain ⟨method, wanted, fails⟩ := unserved
        exact absurd (serves method wanted) fails
    done := by
      rw [performed]
      intro answer same
      rw [← Except.ok.inj same, step.answer]
      exact ⟨answered, changed.memory_eq.symm⟩
    failed := by
      rw [performed]
      intro fault failed
      cases failed
    unloaded := by
      intro fault reads unloaded fails
      cases (listed reads unloaded).symm.trans fails
    loaded := by
      rw [performed]
      refine (request.loaded_cacheAfter _ _).trans ?_
      cases loaded : state.cache.loaded with
      | true => exact iff_of_true (.inl rfl) (.inl loaded)
      | false =>
          rw [relaysLoaded, loaded]
          exact or_congr_right ⟨fun reads => ⟨reads, listed reads loaded⟩, And.left⟩
    whole := by
      rw [performed]
      exact fun loaded => congrArg Table.values ((step.after request).relays_eq loaded)
  }

/-- A request that fails leaves the contents alone, and the relays loaded or to be loaded. -/
theorem Copes.of_failed {method : StoreMethod} {made : List StoreMethod} {fault : StoreFault}
    (step : state.cache.InStep state.backend.memory)
    (begun : method :: made <:+ request.wants state) (serves : state.backend.Serves made)
    (fails : state.backend.fault? method = some fault)
    (performed
      : request.perform (.cached state)
        = (.error fault,
            .cached
              {
                cache := request.cacheLapsed state
                backend := { state.backend with calls := method :: made ++ state.backend.calls }
              }))
    : (cached state).Copes request := by
  exact {
    calls := by
      rw [performed]
      refine ⟨method :: made, rfl, begun.sublist.nodup (request.wants_nodup state), ?_⟩
      refine iff_of_true ⟨fault, rfl⟩ ⟨method, List.mem_cons_self, ?_⟩
      exact Option.ne_none_iff_exists'.mpr ⟨fault, fails⟩
    done := by
      rw [performed]
      intro answer same
      cases same
    failed := by
      rw [performed]
      exact fun _ _ => rfl
    unloaded := by
      rw [performed]
      intro other reads unloaded unlisted
      rcases List.mem_cons.mp
          (StoreRequest.listRelays_mem reads unloaded begun (List.cons_ne_nil _ _)) with
        rfl | earlier
      · exact congrArg Except.error (Option.some.inj (fails.symm.trans unlisted))
      · cases (serves _ earlier).symm.trans unlisted
    loaded := by
      rw [performed]
      exact request.loaded_cacheLapsed state
    whole := by
      rw [performed]
      exact fun loaded => congrArg Table.values ((step.lapsed request).relays_eq loaded)
  }

end

/-- The store has a cache that is in step with the contents. -/
def CacheInStep (front : Front) : Prop :=
  ∃ state, front = .cached state ∧ state.cache.InStep state.backend.memory

/-- A freshly cached store is in step with its contents. -/
theorem freshlyCached_inStep {memory : Memory} (filed : memory.Filed)
    : (freshlyCached memory).CacheInStep :=
  ⟨_, rfl, .empty filed⟩

namespace CacheInStep

variable {front : Front}

/-- Outages keep the cache in step. -/
theorem amid (step : front.CacheInStep) (outages : List (StoreMethod × String))
    : (front.amid outages).CacheInStep := by
  obtain ⟨state, rfl, step⟩ := step
  exact ⟨_, rfl, step⟩

/-- A store in step copes with every request and stays in step, by cases on how the request ends.
-/
theorem perform (step : front.CacheInStep) (request : StoreRequest)
    : front.Copes request ∧ (request.perform front).2.CacheInStep := by
  obtain ⟨state, rfl, step⟩ := step
  obtain ⟨later, left, ends⟩ := request.perform_ends state
  generalize answered : (request.perform (.cached state)).1 = answer at ends
  have performed : request.perform (.cached state) = (answer, .cached later) :=
    Prod.ext answered left
  rw [CacheInStep, left]
  cases ends with
  | done serves => exact ⟨.of_done step serves performed, _, rfl, step.after request⟩
  | failed begun serves fails =>
      exact ⟨.of_failed step begun serves fails performed, _, rfl, step.lapsed request⟩

/-- The cache stays in step over every run of attempts, by induction over it. -/
theorem afterAttempts (step : front.CacheInStep) (attempts : List StoreAttempt)
    : (front.afterAttempts attempts).CacheInStep := by
  induction attempts generalizing front with
  | nil => exact step
  | cons first rest ih => exact ih ((step.amid first.outages).perform first.request).2

end CacheInStep

/-- After any attempts with whichever outages, a store with a cache copes with every further one as
if nothing had failed before.
-/
theorem freshlyCached_copes {memory : Memory} (filed : memory.Filed) (attempts : List StoreAttempt)
    (attempt : StoreAttempt)
    : (((freshlyCached memory).afterAttempts attempts).amid attempt.outages).Copes
        attempt.request :=
  ((((freshlyCached_inStep filed).afterAttempts attempts).amid _).perform _).1

/-- Relays that could not be listed once are all listed later on, with one that was put meanwhile.
-/
theorem listing_outlasts_outage
    : let memory := Memory.empty.putRelay (relayFor "hub" "ops")
      let attempts : List StoreAttempt :=
        [
          { outages := [(.listRelays, "down")], request := .listRelays },
          { outages := [], request := .putRelay (relayFor "spare" "ops") }
        ]
      memory.Filed
      ∧ (listRelays (((freshlyCached memory).afterAttempts attempts).amid [])).1
        = .ok [relayFor "hub" "ops", relayFor "spare" "ops"] := by
  intro memory attempts
  have filed : memory.Filed := Memory.Filed.empty.putRelay _
  have copes := freshlyCached_copes filed attempts { outages := [], request := .listRelays }
  refine ⟨filed, ?_⟩
  cases answered : (listRelays (((freshlyCached memory).afterAttempts attempts).amid [])).1 with
  | error fault =>
      obtain ⟨_, _, _, fails⟩ := copes.calls
      obtain ⟨method, _, faulty⟩ := fails.mp ⟨fault, answered⟩
      exact absurd rfl faulty
  | ok relays =>
      have told := (copes.done relays answered).1
      have all
          : (((freshlyCached memory).afterAttempts attempts).amid []).memory.relays.values
            = [relayFor "hub" "ops", relayFor "spare" "ops"] := by
        decide +kernel
      exact told.symm.trans (congrArg Except.ok all)

end Front

end FleetOps
