import FleetOps.Proofs.Store.Traffic

/-! Stores that answer alike about nodes and relays, since they differ only in what a check of a key
leaves behind. So what is read first does not change what is read next.
-/

namespace FleetOps

/-- Two backends differ only in the calls that they have had. -/
structure Backend.Alike (left right : Backend) : Prop where
  memory : left.memory = right.memory
  outages : left.outages = right.outages

/-- Two stores with a cache differ only in the keys that the cache remembers and in the calls. -/
structure Cached.Alike (left right : Cached) : Prop where
  backend : left.backend.Alike right.backend
  relays : left.cache.relays = right.cache.relays
  loaded : left.cache.loaded = right.cache.loaded

/-- Two stores differ only in remembered keys and in calls. -/
inductive Front.Alike : Front → Front → Prop
  | direct {left right : Backend} (same : left.Alike right) : Alike (.direct left) (.direct right)
  | cached {left right : Cached} (same : left.Alike right) : Alike (.cached left) (.cached right)

-----------------------------------------------------------------------------------------
-- What reading leaves behind
-----------------------------------------------------------------------------------------

section

variable {α : Type} (method : StoreMethod) (view : Memory → α)

/-- A read leaves a backend alike. -/
theorem Backend.alike_read (backend : Backend) : backend.Alike (backend.read method view).2 := by
  unfold Backend.read Backend.call
  split
  · exact ⟨rfl, rfl⟩
  · exact ⟨rfl, rfl⟩

/-- Backends that are alike answer a read alike, and stay alike. -/
theorem Backend.Alike.read {left right : Backend} (same : left.Alike right)
    : (left.read method view).1 = (right.read method view).1
      ∧ (left.read method view).2.Alike (right.read method view).2 := by
  simp only [Backend.read, Backend.call, Backend.fault?, same.memory, same.outages]
  split <;> exact ⟨rfl, rfl, rfl⟩

/-- A read of the backend leaves the store alike. -/
theorem Front.alike_onBackend (front : Front)
    : front.Alike (Front.onBackend (·.read method view) front).2 := by
  cases front with
  | direct backend => exact .direct (backend.alike_read method view)
  | cached state => exact .cached ⟨state.backend.alike_read method view, rfl, rfl⟩

/-- Stores that are alike answer a read of the backend alike. -/
theorem Front.Alike.onBackend {left right : Front} (same : left.Alike right)
    : (Front.onBackend (·.read method view) left).1
      = (Front.onBackend (·.read method view) right).1 := by
  cases same with
  | direct same => exact (same.read method view).1
  | cached same => exact (same.backend.read method view).1

end

namespace Front

/-- A store is alike to itself. -/
theorem Alike.refl (front : Front) : front.Alike front := by
  cases front with
  | direct backend => exact .direct ⟨rfl, rfl⟩
  | cached state => exact .cached ⟨⟨rfl, rfl⟩, rfl, rfl⟩

/-- Stores that are alike to the same store are alike. -/
theorem Alike.trans {left middle right : Front} (first : left.Alike middle)
    (second : middle.Alike right)
    : left.Alike right := by
  cases first with
  | direct same =>
      cases second with
      | direct other =>
          exact .direct ⟨same.memory.trans other.memory, same.outages.trans other.outages⟩
  | cached same =>
      cases second with
      | cached other =>
          exact .cached {
            backend :=
              ⟨same.backend.memory.trans other.backend.memory,
                same.backend.outages.trans other.backend.outages⟩
            relays := same.relays.trans other.relays
            loaded := same.loaded.trans other.loaded
          }

/-- A check of a key makes the cache remember it at most, by cases on what it comes to. -/
theorem alike_validateKey (front : Front) (key : String) (admin : Bool)
    : front.Alike (validateKey key admin front).2 := by
  cases front with
  | direct backend => exact .direct (backend.alike_read .validateKey (·.acceptsKey key admin))
  | cached state =>
      have asked := state.backend.alike_read .validateKey (·.acceptsKey key admin)
      simp only [validateKey, through, Cached.run, Cache.validateKey, Program.run, Cached.perform]
      cases state.cache.knows admin key with
      | true => exact .refl _
      | false =>
          simp only [Program.run, Cached.perform]
          rcases (state.backend.read .validateKey (·.acceptsKey key admin)).1
            with fault | accepted
          · exact .cached ⟨asked, rfl, rfl⟩
          · cases accepted with
            | false => exact .cached ⟨asked, rfl, rfl⟩
            | true => cases admin <;> exact .cached ⟨asked, rfl, rfl⟩

end Front

-----------------------------------------------------------------------------------------
-- What is read of relays
-----------------------------------------------------------------------------------------

/-- An access for a relay has the same outcome in stores that are alike, by cases on the accesses.
-/
theorem Cached.Alike.perform {left right : Cached} (same : left.Alike right) {host : String}
    {access : Cache.Access} (asked : access.BelongsTo (.getRelay host))
    : (Cached.perform access left).1 = (Cached.perform access right).1
      ∧ (Cached.perform access left).2.Alike (Cached.perform access right).2 := by
  cases access with
  | isLoaded => exact ⟨same.loaded, same⟩
  | markLoaded => exact ⟨rfl, { same with loaded := rfl }⟩
  | cachedRelay host => exact ⟨congrArg (·.get? host) same.relays, same⟩
  | cacheRelay relay =>
      have relays := congrArg (·.insert relay.host relay) same.relays
      exact ⟨rfl, { same with relays := relays }⟩
  | listRelays =>
      obtain ⟨answer, backend⟩ := same.backend.read .listRelays (·.relays.values)
      exact ⟨answer, { same with backend := backend }⟩
  | getRelay host =>
      obtain ⟨answer, backend⟩ := same.backend.read .getRelay (·.relays.get? host)
      exact ⟨answer, { same with backend := backend }⟩
  | forget =>
      obtain ⟨_, other, _⟩ := asked
      cases other
  | _ => cases asked

/-- Stores that are alike have the same relay for a host. -/
theorem Front.Alike.getRelay {left right : Front} (same : left.Alike right) (host : String)
    : (Front.getRelay host left).1 = (Front.getRelay host right).1 := by
  cases same with
  | direct same => exact (same.read .getRelay (·.relays.get? host)).1
  | cached same =>
      have asks : (Cache.getRelay host).AsksOnly (Cache.Access.BelongsTo (.getRelay host)) :=
        StoreRequest.operation?_asksOnly rfl
      exact (asks.run_related (fun _ _ _ states asked => states.perform asked) same).1

end FleetOps
