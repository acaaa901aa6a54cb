import FleetOps.Proofs.Store.Alike

/-! Stores whose backend does not fail. With a cache or without one they answer every request, and
the contents change as the request alone says.
-/

namespace FleetOps

/-- The backend of the store does not fail at present. -/
def Front.Works (front : Front) : Prop := front.backend.outages = []

namespace Front

variable {front other : Front}

/-- A plain store works. -/
theorem plain_works (memory : Memory) : (Front.plain memory).Works := rfl

/-- A freshly cached store works. -/
theorem freshlyCached_works (memory : Memory) : (Front.freshlyCached memory).Works := rfl

/-- A store that is plain over its contents works. -/
theorem IsPlain.works {memory : Memory} (plain : front.IsPlain memory) : front.Works := by
  obtain ⟨backend, rfl, _, works⟩ := plain
  exact works

/-- A store that holds its contents behind a cache works. -/
theorem Holds.works {cache : Cache} {memory : Memory} (holds : front.Holds cache memory)
    : front.Works := by
  obtain ⟨state, rfl, _, _, works⟩ := holds
  exact works

/-- A store in working order is a backend alone or one with some cache. -/
theorem Works.plain_or_holds (works : front.Works)
    : front.IsPlain front.memory ∨ ∃ cache, front.Holds cache front.memory := by
  cases front with
  | direct backend => exact .inl ⟨backend, rfl, rfl, works⟩
  | cached state => exact .inr ⟨state.cache, state, rfl, rfl, rfl, works⟩

/-- Every request is answered and changes the contents as it does by itself. -/
theorem Works.perform (works : front.Works) (request : StoreRequest)
    : (∃ answer, (request.perform front).1 = .ok answer)
      ∧ (request.perform front).2.Works
      ∧ (request.perform front).2.memory = (request.onMemory front.memory).2 := by
  rcases works.plain_or_holds with plain | ⟨cache, holds⟩
  · obtain ⟨answer, later⟩ := plain.perform request
    exact ⟨⟨_, answer⟩, later.works, later.memory_eq⟩
  · obtain ⟨answer, later⟩ := holds.perform request
    exact ⟨⟨_, answer⟩, later.works, later.memory_eq⟩

/-- What does not go through a cache is answered from the contents. -/
theorem Works.answer (works : front.Works) (request : StoreRequest)
    (uncached : request.operation? = none)
    : (request.perform front).1 = .ok (request.onMemory front.memory).1 := by
  rcases works.plain_or_holds with plain | ⟨cache, holds⟩
  · exact (plain.perform request).1
  · have answer := (holds.perform request).1
    cases request with
    | validateKey | putKey | listRelays | getRelay | putRelay => cases uncached
    | _ => exact answer

-----------------------------------------------------------------------------------------
-- Stores that are alike
-----------------------------------------------------------------------------------------

/-- Stores that are alike have the same contents. -/
theorem Alike.memory_eq (alike : front.Alike other) : front.memory = other.memory := by
  cases alike with
  | direct same => exact same.memory
  | cached same => exact same.backend.memory

/-- A store that is alike to one that works does too. -/
theorem Alike.works (alike : front.Alike other) (works : front.Works) : other.Works := by
  cases alike with
  | direct same => exact same.outages.symm.trans works
  | cached same => exact same.backend.outages.symm.trans works

end Front

end FleetOps
