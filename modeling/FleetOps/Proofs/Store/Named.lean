import FleetOps.Proofs.Store.Memory
import FleetOps.Proofs.Store.RelayReads

/-! Whatever is asked of a store, everything stays filed under its own name in the backend and in
the cache, even while the backend fails. So the relay that is found for a host is one of that host.
-/

namespace FleetOps

/-- A call leaves the contents as they were or as the act makes them. -/
theorem Backend.call_memory {α : Type} (backend : Backend) (method : StoreMethod)
    (act : Memory → α × Memory)
    : (backend.call method act).2.memory = backend.memory
      ∨ (backend.call method act).2.memory = (act backend.memory).2 := by
  unfold call
  split
  · exact .inl rfl
  · exact .inr rfl

section

variable {holds : Memory → Prop} {backend : Backend}

/-- A read keeps what holds of the contents. -/
theorem Backend.keeps_read {α : Type} (held : holds backend.memory) (method : StoreMethod)
    (view : Memory → α)
    : holds (backend.read method view).2.memory := by
  rcases backend.call_memory method (fun memory => (view memory, memory)) with same | read
  · exact same ▸ held
  · exact read ▸ held

/-- A write keeps what its change keeps, even if it fails. -/
theorem Backend.keeps_write (held : holds backend.memory) (method : StoreMethod)
    (change : Memory → Memory) (changed : holds (change backend.memory))
    : holds (backend.write method change).2.memory := by
  rcases backend.call_memory method (fun memory => ((), change memory)) with same | written
  · exact same ▸ held
  · exact written ▸ changed

end

/-- A read that is answered shows what it views. -/
theorem Backend.read_ok {α : Type} {backend : Backend} (method : StoreMethod)
    (view : Memory → α) {value : α} (answered : (backend.read method view).1 = .ok value)
    : value = view backend.memory := by
  unfold read call at answered
  split at answered
  · cases answered
  · exact (Except.ok.inj answered).symm

-----------------------------------------------------------------------------------------
-- What accesses and requests keep
-----------------------------------------------------------------------------------------

/-- All that is known is filed under its own name, in the contents and in the cache. -/
structure Cached.Named (state : Cached) : Prop where
  memory : state.backend.memory.Filed
  relays : state.cache.relays.FiledBy (·.host)

/-- Every access keeps what is known under its own name, by cases on the accesses. -/
theorem Cached.Named.perform {state : Cached} (named : state.Named) (access : Cache.Access)
    : (Cached.perform access state).2.Named := by
  obtain ⟨memory, relays⟩ := named
  cases access with
  | putKey apiKey =>
      exact ⟨Backend.keeps_write memory .putKey (·.putKey apiKey) (memory.putKey apiKey), relays⟩
  | putRelay relay =>
      exact
        ⟨Backend.keeps_write memory .putRelay (·.putRelay relay) (memory.putRelay relay), relays⟩
  | validateKey admin key =>
      exact ⟨Backend.keeps_read memory .validateKey (·.acceptsKey key admin), relays⟩
  | listRelays => exact ⟨Backend.keeps_read memory .listRelays (·.relays.values), relays⟩
  | getRelay host => exact ⟨Backend.keeps_read memory .getRelay (·.relays.get? host), relays⟩
  | cacheRelay relay => exact ⟨memory, relays.insert relay⟩
  | remember admin key => cases admin <;> exact ⟨memory, relays⟩
  | forget admin key => cases admin <;> exact ⟨memory, relays⟩
  | _ => exact ⟨memory, relays⟩

/-- All that a store knows is filed under its own name. -/
def Front.Named : Front → Prop
  | .direct backend => backend.memory.Filed
  | .cached state => state.Named

/-- A request that does not go through a cache is done by the backend or fails there. -/
theorem StoreRequest.perform_direct (request : StoreRequest) (backend : Backend)
    : ∃ later,
        (request.perform (.direct backend)).2 = .direct later
        ∧ (later.memory = backend.memory
          ∨ later.memory = (request.onMemory backend.memory).2) := by
  rw [perform_call]
  exact ⟨_, rfl, backend.call_memory request.method request.onMemory⟩

/-- A request to a store without a cache keeps its contents filed. -/
theorem StoreRequest.filed_direct (request : StoreRequest) {backend : Backend}
    (filed : backend.memory.Filed)
    : (request.perform (.direct backend)).2.Named := by
  obtain ⟨later, left, same | changed⟩ := request.perform_direct backend
  · rw [left, Front.Named, same]
    exact filed
  · rw [left, Front.Named, changed]
    exact filed.onMemory request

/-- With a cache, what does not go through it changes the backend as it does without one. -/
theorem StoreRequest.perform_behind {request : StoreRequest} (uncached : request.operation? = none)
    (state : Cached)
    : (request.perform (.cached state)).2
      = (Front.cached state).withBackend (request.perform (.direct state.backend)).2.backend := by
  cases request with
  | validateKey | putKey | listRelays | getRelay | putRelay => cases uncached
  | _ => rfl

namespace Front.Named

variable {front : Front}

/-- A plain store over filed contents is named. -/
theorem plain {memory : Memory} (filed : memory.Filed) : (Front.plain memory).Named := filed

/-- A freshly cached store over filed contents is named. -/
theorem freshlyCached {memory : Memory} (filed : memory.Filed)
    : (Front.freshlyCached memory).Named :=
  ⟨filed, .empty⟩

/-- A named store has filed contents. -/
theorem filed (named : front.Named) : front.memory.Filed := by
  cases front with
  | direct backend => exact named
  | cached state => exact named.memory

/-- A named store is one over any backend whose contents are filed. -/
theorem withBackend (named : front.Named) {backend : Backend} (filed : backend.memory.Filed)
    : (front.withBackend backend).Named := by
  cases front with
  | direct _ => exact filed
  | cached state => exact ⟨filed, named.relays⟩

/-- Every request keeps what the store knows under its own name. -/
theorem perform (named : front.Named) (request : StoreRequest)
    : (request.perform front).2.Named := by
  cases front with
  | direct backend => exact request.filed_direct named
  | cached state =>
      cases known : request.operation? with
      | none =>
          rw [StoreRequest.perform_behind known]
          exact named.withBackend (request.filed_direct named.memory).filed
      | some operation =>
          rw [StoreRequest.perform_operation known]
          exact operation.run_keeps (fun access _ held => held.perform access) named

/-- Visits keep a store named. -/
theorem visit (named : front.Named) (visit : Visit) : (front.visit visit).2.Named := by
  cases visit with
  | through request => exact named.perform request
  | behind request => exact named.withBackend (request.filed_direct named.filed).filed

end Front.Named

-----------------------------------------------------------------------------------------
-- What is read
-----------------------------------------------------------------------------------------

/-- A report that is returned is the one that the contents have. -/
theorem Front.getReport_ok {front : Front} {id : String} {found : Option Report}
    (answered : (Front.getReport id front).1 = .ok found)
    : found = front.memory.reports.get? id :=
  Backend.read_ok .getReport (·.reports.get? id) answered

/-- An access for the relay of a host tells of no other. -/
def Cache.Access.TellsOf (host : String)
    : (access : Cache.Access) → access.Answer → Prop
  | .cachedRelay wanted, found =>
      wanted = host → ∀ relay, found = some relay → relay.host = host
  | .getRelay wanted, answer =>
      wanted = host → ∀ relay, answer = .ok (some relay) → relay.host = host
  | _, _ => True

/-- An access is told only of relays that go by the name of the host. -/
theorem Cached.Named.tellsOf {state : Cached} (named : state.Named) (host : String)
    (access : Cache.Access)
    : access.TellsOf host (Cached.perform access state).1 := by
  cases access with
  | cachedRelay wanted =>
      rintro rfl relay found
      exact named.relays _ relay found
  | getRelay wanted =>
      rintro rfl relay answered
      exact named.memory.relays _ relay (Backend.read_ok .getRelay (·.relays.get? _) answered).symm
  | _ => trivial

namespace Cache

variable {α : Type} {next : Operation α} {told : (access : Access) → access.Answer → Prop}
  {suits : Except StoreFault α → Prop}

/-- Whatever the loading comes to, the value suits if each fault does. -/
theorem afterLoading_suits (follows : next.Relies told (fun _ => True) suits)
    (faults : ∀ fault, suits (.error fault))
    : (afterLoading next).Relies told (fun _ => True) suits := by
  refine ⟨trivial, fun loaded _ => ?_⟩
  cases loaded with
  | true => exact follows
  | false =>
      refine ⟨trivial, fun answer _ => ?_⟩
      cases answer with
      | error fault => exact faults fault
      | ok relays =>
          have marking
              : Program.Relies told (fun _ => True) suits (.ask .markLoaded fun _ => next) :=
            ⟨trivial, fun _ _ => follows⟩
          exact cacheRelays_relies marking fun _ _ => trivial

/-- A relay that is found for a host goes by that name. -/
theorem getRelay_relies (host : String)
    : (getRelay host).Relies (Access.TellsOf host) (fun _ => True)
        fun answer => ∀ relay, answer = .ok (some relay) → relay.host = host := by
  refine afterLoading_suits ⟨trivial, fun cached heard => ?_⟩ nofun
  cases cached with
  | some relay => exact fun other same => heard rfl other (Except.ok.inj same)
  | none =>
      refine ⟨trivial, fun answer told => ?_⟩
      rcases answer with fault | _ | relay
      · exact nofun
      · exact nofun
      · exact ⟨trivial, fun _ _ other same => told rfl other same⟩

end Cache

/-- A named store returns for a host only a relay of that name. -/
theorem Front.Named.getRelay {front : Front} (named : front.Named) {host : String} {relay : Relay}
    (answered : (Front.getRelay host front).1 = .ok (some relay))
    : relay.host = host := by
  cases front with
  | direct backend =>
      exact named.relays _ relay (Backend.read_ok .getRelay (·.relays.get? _) answered).symm
  | cached state =>
      have keeps : ∀ (access : Cache.Access) (state : Cached),
          state.Named
          → True
          → access.TellsOf host (Cached.perform access state).1
            ∧ (Cached.perform access state).2.Named :=
        fun access _ held _ => ⟨held.tellsOf host access, held.perform access⟩
      exact (Cache.getRelay_relies host).run keeps named relay answered

end FleetOps
