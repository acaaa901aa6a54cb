import FleetOps.Proofs.Store.Works

/-! Pairs of stores that cannot be told apart by who has access to them, or by whether they fail.
What a check of a key or a new report leaves behind has no part in which relays are listed next.
-/

namespace FleetOps

namespace Front

/-- Two stores accept the same keys and hold the same sessions. -/
structure SameAccess (front other : Front) : Prop where
  keys : ∀ key admin, (validateKey key admin front).1 = (validateKey key admin other).1
  sessions : ∀ id, (getSession id front).1 = (getSession id other).1

/-- Two stores fail alike, as far as filing reports and listing relays goes. Stores whose backends
do not fail do so.
-/
structure FailAlike (front other : Front) : Prop where
  reports : ∀ report, (putReport report front).1 = (putReport report other).1
  relays
    : (listRelays front).1.map (fun _ => ()) = (listRelays other).1.map fun _ => ()

variable {front other : Front}

/-- Stores in working order do not fail at all. -/
theorem FailAlike.of_works (works : front.Works) (otherWorks : other.Works)
    : front.FailAlike other where
  reports := fun report =>
    (works.answer (.putReport report) rfl).trans (otherWorks.answer (.putReport report) rfl).symm
  relays := by
    obtain ⟨⟨relays, listed⟩, _⟩ := works.perform .listRelays
    obtain ⟨⟨others, otherListed⟩, _⟩ := otherWorks.perform .listRelays
    change (listRelays front).1 = .ok relays at listed
    change (listRelays other).1 = .ok others at otherListed
    rw [listed, otherListed]
    rfl

/-- A cache that holds nothing yet accepts what a store without one accepts. -/
theorem SameAccess.of_contents {memory contents : Memory}
    (keys : memory.apiKeys = contents.apiKeys) (sessions : memory.sessions = contents.sessions)
    : (Front.plain memory).SameAccess (Front.freshlyCached contents) where
  keys := by
    intro key admin
    have plain : (validateKey key admin (Front.plain memory)).1
        = .ok (memory.acceptsKey key admin) :=
      ((plain_isPlain memory).perform (.validateKey key admin)).1
    have cached : (validateKey key admin (Front.freshlyCached contents)).1
        = .ok (Cache.empty.knows admin key || contents.acceptsKey key admin) :=
      ((freshlyCached_holds contents).perform (.validateKey key admin)).1
    rw [plain, cached, Cache.knows_empty, Bool.false_or, Memory.acceptsKey, Memory.acceptsKey, keys]
  sessions := by
    intro id
    have plain : (getSession id (Front.plain memory)).1 = .ok (memory.sessions.get? id) :=
      ((plain_isPlain memory).perform (.getSession id)).1
    have cached : (getSession id (Front.freshlyCached contents)).1
        = .ok (contents.sessions.get? id) :=
      ((freshlyCached_holds contents).perform (.getSession id)).1
    rw [plain, cached, sessions]

end Front

-----------------------------------------------------------------------------------------
-- What relays are listed from
-----------------------------------------------------------------------------------------

/-- Two stores with a cache have all in common that relays are listed from. -/
structure Cached.ListsAlike (left right : Cached) : Prop where
  contents : left.backend.memory.relays = right.backend.memory.relays
  outages : left.backend.outages = right.backend.outages
  relays : left.cache.relays = right.cache.relays
  loaded : left.cache.loaded = right.cache.loaded

/-- Two stores have all in common that relays are listed from. -/
inductive Front.ListsAlike : Front → Front → Prop
  | direct {left right : Backend} (contents : left.memory.relays = right.memory.relays)
    (outages : left.outages = right.outages)
    : ListsAlike (.direct left) (.direct right)
  | cached {left right : Cached} (same : left.ListsAlike right)
    : ListsAlike (.cached left) (.cached right)

/-- Backends with the same relays and the same outages list alike. -/
theorem Backend.read_relays {left right : Backend}
    (contents : left.memory.relays = right.memory.relays) (outages : left.outages = right.outages)
    : (left.read .listRelays (·.relays.values)).1 = (right.read .listRelays (·.relays.values)).1 := by
  simp only [Backend.read, Backend.call, Backend.fault?, contents, outages]
  split <;> rfl

/-- An access of a listing has the same outcome, by cases on the accesses. -/
theorem Cached.ListsAlike.perform {left right : Cached} (same : left.ListsAlike right)
    {access : Cache.Access} (asked : access.BelongsTo .listRelays)
    : (Cached.perform access left).1 = (Cached.perform access right).1
      ∧ (Cached.perform access left).2.ListsAlike (Cached.perform access right).2 := by
  cases access with
  | isLoaded => exact ⟨same.loaded, same⟩
  | markLoaded => exact ⟨rfl, { same with loaded := rfl }⟩
  | cachedRelays => exact ⟨congrArg (·.values) same.relays, same⟩
  | cacheRelay relay =>
      have relays := congrArg (·.insert relay.host relay) same.relays
      exact ⟨rfl, { same with relays := relays }⟩
  | listRelays =>
      have outages := (Cached.perform_outages .listRelays left).trans
        (same.outages.trans (Cached.perform_outages .listRelays right).symm)
      refine ⟨Backend.read_relays same.contents same.outages,
        { same with contents := ?_, outages := outages }⟩
      simp only [Cached.perform, Backend.read, Backend.call]
      split <;> split <;> exact same.contents
  | _ => simp [Cache.Access.BelongsTo] at asked

namespace Front

variable {front other : Front}

/-- Stores that list alike return the same list. -/
theorem ListsAlike.listRelays (same : front.ListsAlike other)
    : (Front.listRelays front).1 = (Front.listRelays other).1 := by
  cases same with
  | direct contents outages => exact Backend.read_relays contents outages
  | cached same =>
      have asks : Cache.listRelays.AsksOnly (Cache.Access.BelongsTo .listRelays) :=
        StoreRequest.operation?_asksOnly rfl
      exact (asks.run_related (fun _ _ _ states asked => states.perform asked) same).1

/-- Stores that are alike list alike. -/
theorem Alike.listsAlike (alike : front.Alike other) : front.ListsAlike other := by
  cases alike with
  | direct same => exact .direct (congrArg (·.relays) same.memory) same.outages
  | cached same =>
      exact .cached {
        contents := congrArg (·.relays) same.backend.memory
        outages := same.backend.outages
        relays := same.relays
        loaded := same.loaded
      }

/-- Stores that list alike to the same store list alike. -/
theorem ListsAlike.trans {middle : Front} (first : front.ListsAlike middle)
    (second : middle.ListsAlike other)
    : front.ListsAlike other := by
  cases first with
  | direct contents outages =>
      cases second with
      | direct others otherOutages =>
          exact .direct (contents.trans others) (outages.trans otherOutages)
  | cached same =>
      cases second with
      | cached others =>
          exact .cached {
            contents := same.contents.trans others.contents
            outages := same.outages.trans others.outages
            relays := same.relays.trans others.relays
            loaded := same.loaded.trans others.loaded
          }

/-- A new report has no part in the listing of relays. -/
theorem listsAlike_putReport (front : Front) (report : Report)
    : front.ListsAlike (putReport report front).2 := by
  have unaffected (backend : Backend)
      : backend.memory.relays = (backend.write .putReport (·.putReport report)).2.memory.relays
        ∧ backend.outages = (backend.write .putReport (·.putReport report)).2.outages := by
    unfold Backend.write Backend.call
    split <;> exact ⟨rfl, rfl⟩
  cases front with
  | direct backend => exact .direct (unaffected backend).1 (unaffected backend).2
  | cached state =>
      exact .cached ⟨(unaffected state.backend).1, (unaffected state.backend).2, rfl, rfl⟩

/-- What differs only in remembered keys fails alike at filing a report. -/
theorem Alike.putReport (alike : front.Alike other) (report : Report)
    : (Front.putReport report front).1 = (Front.putReport report other).1 := by
  have answers {left right : Backend} (outages : left.outages = right.outages)
      : (left.write .putReport (·.putReport report)).1
        = (right.write .putReport (·.putReport report)).1 := by
    simp only [Backend.write, Backend.call, Backend.fault?, outages]
    split <;> rfl
  cases alike with
  | direct same => exact answers same.outages
  | cached same => exact answers same.backend.outages

end Front

end FleetOps
