import FleetOps.Proofs.Store.Keys
import FleetOps.Proofs.Store.Relays

/-! A store with a cache that nobody goes behind answers like one without: what the cache knows
the contents accept, and the view that it shows of the relays is that of the contents.
-/

namespace FleetOps

/-- What every request keeps of a cache that nobody goes behind. -/
structure Cache.InStep (cache : Cache) (memory : Memory) : Prop where
  filed : memory.Filed
  known : ∀ key admin, cache.knows admin key = true → memory.acceptsKey key admin = true
  relays : ∃ view, cache.Shows memory view ∧ view.table = view.contents

/-- Only a put of a key changes whether it is accepted. -/
theorem StoreRequest.acceptsKey_onMemory {request : StoreRequest} {key : String}
    (kept : ¬ (Visit.through request).PutsKey key) (memory : Memory) (admin : Bool)
    : (request.onMemory memory).2.acceptsKey key admin = memory.acceptsKey key admin := by
  cases request with
  | putKey apiKey =>
      have different : key ≠ apiKey.key := fun same => kept ⟨apiKey, rfl, same.symm⟩
      exact (memory.acceptsKey_putKey apiKey key admin).trans (if_neg different)
  | _ => rfl

/-- A view that is all of the contents stays so with requests through the cache. -/
theorem RelayView.table_eq_step {view : RelayView} (whole : view.table = view.contents)
    (request : StoreRequest)
    : (view.step (.through request)).table = (view.step (.through request)).contents := by
  cases request with
  | getRelay host =>
      simp only [RelayView.step, RelayView.table, Option.getD_some, RelayView.adding] at whole ⊢
      rw [whole]
      cases view.contents.get? host <;> rfl
  | putRelay relay =>
      cases taken : view.taken with
      | none => simp [RelayView.step, RelayView.table, taken]
      | some table =>
          rw [RelayView.table, taken, Option.getD_some] at whole
          simp [RelayView.step, RelayView.table, taken, whole]
  | _ => exact whole

namespace Cache.InStep

variable {cache : Cache} {memory : Memory}

/-- An empty cache is in step with all filed contents. -/
theorem empty (filed : memory.Filed) : Cache.empty.InStep memory where
  filed := filed
  known := by simp
  relays := by
    refine ⟨.untaken memory.relays, ?_, rfl⟩
    exact {
      contents := rfl
      filed := filed.relays
      loaded := rfl
      relays := by simp [RelayView.untaken]
      early := by simp [Cache.empty]
    }

/-- The cache answers what the contents answer, by cases on the requests that go through it. -/
theorem answer (step : cache.InStep memory) (request : StoreRequest)
    : request.cachedAnswer cache memory = (request.onMemory memory).1 := by
  obtain ⟨view, shows, whole⟩ := step.relays
  have loaded : (cache.load memory).relays = memory.relays := by
    rw [shows.load_relays, whole, shows.contents]
  cases request with
  | validateKey key admin =>
      change (cache.knows admin key || memory.acceptsKey key admin)
        = memory.acceptsKey key admin
      cases remembered : cache.knows admin key with
      | true => rw [step.known key admin remembered, Bool.or_true]
      | false => rw [Bool.false_or]
  | listRelays =>
      change (cache.load memory).relays.values = memory.relays.values
      rw [loaded]
  | getRelay host =>
      change ((cache.load memory).relays.get? host).or (memory.relays.get? host)
        = memory.relays.get? host
      rw [loaded, Option.or_self]
  | _ => rfl

/-- A request keeps the cache in step with the contents. -/
theorem after (step : cache.InStep memory) (request : StoreRequest)
    : (request.cacheAfter cache memory).InStep (request.onMemory memory).2 where
  filed := step.filed.onMemory request
  known := by
    intro key admin knows
    rcases (Visit.knows_cacheAfter (.through request) cache memory key admin).mp knows with
      ⟨same, accepted⟩ | ⟨remembered, kept⟩
    · cases same
      rcases Bool.or_eq_true_iff.mp accepted with remembered | acceptable
      · exact step.known key admin remembered
      · exact acceptable
    · rw [StoreRequest.acceptsKey_onMemory kept]
      exact step.known key admin remembered
  relays := by
    obtain ⟨view, shows, whole⟩ := step.relays
    exact ⟨_, shows.visit (.through request), RelayView.table_eq_step whole request⟩

end Cache.InStep

-----------------------------------------------------------------------------------------
-- Twin stores
-----------------------------------------------------------------------------------------

/-- A store with a cache in step with its contents, and one without a cache that has the same
contents.
-/
structure Twins (cached plain : Front) (memory : Memory) : Prop where
  cached : ∃ cache, cached.Holds cache memory ∧ cache.InStep memory
  plain : plain.IsPlain memory

namespace Twins

variable {cached plain : Front} {memory : Memory}

/-- A freshly cached store and a plain one are twins. -/
theorem fresh (filed : memory.Filed)
    : Twins (Front.freshlyCached memory) (Front.plain memory) memory where
  cached := ⟨_, Front.freshlyCached_holds memory, .empty filed⟩
  plain := Front.plain_isPlain memory

/-- The contents of twins are filed. -/
theorem filed (twins : Twins cached plain memory) : memory.Filed := by
  obtain ⟨_, _, step⟩ := twins.cached
  exact step.filed

/-- Twins have the same contents. -/
theorem memory_eq (twins : Twins cached plain memory) : cached.memory = plain.memory := by
  obtain ⟨_, holds, _⟩ := twins.cached
  rw [holds.memory_eq, twins.plain.memory_eq]

/-- Twins answer a request alike and stay twins. -/
theorem perform (twins : Twins cached plain memory) (request : StoreRequest)
    : (request.perform cached).1 = .ok (request.onMemory memory).1
      ∧ (request.perform plain).1 = .ok (request.onMemory memory).1
      ∧ Twins (request.perform cached).2 (request.perform plain).2
          (request.onMemory memory).2 := by
  obtain ⟨cache, holds, step⟩ := twins.cached
  obtain ⟨answer, later⟩ := holds.perform request
  obtain ⟨same, plainLater⟩ := twins.plain.perform request
  rw [step.answer] at answer
  exact ⟨answer, same, ⟨_, later, step.after request⟩, plainLater⟩

/-- Twins stay twins over every run of requests, by induction over it. -/
theorem after (twins : Twins cached plain memory) (requests : List StoreRequest)
    : ∃ later,
        Twins (cached.after (requests.map .through)) (plain.after (requests.map .through))
          later := by
  induction requests generalizing cached plain memory with
  | nil => exact ⟨memory, twins⟩
  | cons request rest ih => exact ih (twins.perform request).2.2

end Twins

end FleetOps
