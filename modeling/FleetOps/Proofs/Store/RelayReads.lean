import FleetOps.Proofs.Store.Traffic

/-! How relays are read and registered access by access. A request that is told of a relay as the
backend and the cache have it leaves it there and is given it, and a read is always somewhere on
its way through the loading of the cache.
-/

namespace FleetOps

-----------------------------------------------------------------------------------------
-- Relays and requests for them
-----------------------------------------------------------------------------------------

/-- The list has this relay, and no other for its host. -/
def Relay.IsOnlyOne (relay : Relay) (relays : List Relay) : Prop :=
  relays.filter (·.host == relay.host) = [relay]

namespace Table

variable {table : Table Relay} {relay : Relay}

/-- A table by hosts has a relay that it finds, and no other for that host. -/
theorem FiledBy.isOnlyOne (filed : table.FiledBy (·.host))
    (found : table.get? relay.host = some relay)
    : relay.IsOnlyOne table.values := by
  have members : ∀ other, other ∈ table.values.filter (·.host == relay.host) ↔ other = relay := by
    intro other
    rw [List.mem_filter, filed.mem_values, beq_iff_eq]
    constructor
    · rintro ⟨held, same⟩
      rw [same, found] at held
      exact (Option.some.inj held).symm
    · rintro rfl
      exact ⟨found, rfl⟩
  have distinct := filed.values_nodup.filter (·.host == relay.host)
  have same := (List.perm_ext_iff_of_nodup distinct (List.nodup_singleton relay)).mpr fun other => by
    rw [members, List.mem_singleton]
  exact List.perm_singleton.mp same

end Table

/-- A relay of the only one's host is that one. -/
theorem Relay.IsOnlyOne.eq {relay other : Relay} {relays : List Relay}
    (only : relay.IsOnlyOne relays) (member : other ∈ relays) (same : other.host = relay.host)
    : other = relay := by
  have found : other ∈ relays.filter (·.host == relay.host) :=
    List.mem_filter.mpr ⟨member, beq_iff_eq.mpr same⟩
  rw [only] at found
  exact List.mem_singleton.mp found

namespace StoreRequest

/-- The request registers a relay for a host. -/
def PutsRelay (host : String) (request : StoreRequest) : Prop :=
  ∃ relay, request = .putRelay relay ∧ relay.host = host

/-- The request reads relays. -/
def ReadsRelays (request : StoreRequest) : Prop :=
  request = .listRelays ∨ ∃ host, request = .getRelay host

/-- A request for the relay of a host, or for all relays, is given this relay for its host. -/
def Gives (relay : Relay) : (request : StoreRequest) → Except StoreFault request.Answer → Prop
  | .getRelay host, answer => host = relay.host → answer = .ok (some relay)
  | .listRelays, answer => ∃ relays, answer = .ok relays ∧ relay.IsOnlyOne relays
  | _, _ => True

end StoreRequest

-----------------------------------------------------------------------------------------
-- What accesses do to relays
-----------------------------------------------------------------------------------------

namespace Cached

variable {access : Cache.Access} {shared : Cached} {relay : Relay} {host : String}

/-- The backend works, and all relays are filed under their hosts. -/
structure Filed (shared : Cached) : Prop where
  works : shared.backend.outages = []
  contents : shared.backend.memory.relays.FiledBy (·.host)
  cached : shared.cache.relays.FiledBy (·.host)

/-- Every access keeps relays filed, by cases on the accesses. -/
theorem Filed.perform (filed : shared.Filed) (access : Cache.Access)
    : (perform access shared).2.Filed where
  works := (perform_outages access shared).trans filed.works
  contents := by
    cases access with
    | putRelay other =>
        simp only [Cached.perform, Backend.write, Backend.call_works filed.works]
        exact filed.contents.insert other
    | validateKey | putKey | listRelays | getRelay =>
        simp only [Cached.perform, Backend.read, Backend.write, Backend.call_works filed.works]
        exact filed.contents
    | _ => exact filed.contents
  cached := by
    cases access with
    | cacheRelay other => exact filed.cached.insert other
    | remember admin key => cases admin <;> exact filed.cached
    | forget admin key => cases admin <;> exact filed.cached
    | _ => exact filed.cached

/-- Only a registration changes what the backend has for a host, by cases on the accesses. -/
theorem Filed.perform_contents (filed : shared.Filed)
    (kept : ∀ other, access = .putRelay other → other.host ≠ host)
    : (Cached.perform access shared).2.backend.memory.relays.get? host
      = shared.backend.memory.relays.get? host := by
  cases access with
  | putRelay other =>
      simp only [Cached.perform, Backend.write, Backend.call_works filed.works]
      exact Table.get?_insert_other _ _ (kept other rfl).symm
  | putKey =>
      simp only [Cached.perform, Backend.write, Backend.call_works filed.works]
      rfl
  | validateKey | listRelays | getRelay =>
      simp only [Cached.perform, Backend.read, Backend.call_works filed.works]
  | _ => rfl

/-- Only a relay of a host that is taken over changes what the cache has for it, by cases on the
accesses.
-/
theorem perform_cached (kept : ∀ other, access = .cacheRelay other → other.host ≠ host)
    (shared : Cached)
    : (perform access shared).2.cache.relays.get? host = shared.cache.relays.get? host := by
  cases access with
  | cacheRelay other => exact Table.get?_insert_other _ _ (kept other rfl).symm
  | remember admin key => cases admin <;> rfl
  | forget admin key => cases admin <;> rfl
  | _ => rfl

/-- A loaded cache stays loaded, by cases on the accesses. -/
theorem perform_loaded (access : Cache.Access) (loaded : shared.cache.loaded = true)
    : (perform access shared).2.cache.loaded = true := by
  cases access with
  | remember admin key => cases admin <;> exact loaded
  | forget admin key => cases admin <;> exact loaded
  | markLoaded => rfl
  | _ => exact loaded

/-- Backend and cache have the same relay for its host. -/
structure Settled (shared : Cached) (relay : Relay) : Prop where
  filed : shared.Filed
  contents : shared.backend.memory.relays.get? relay.host = some relay
  cached : shared.cache.relays.get? relay.host = some relay

end Cached

namespace Cache.Access

variable {relay : Relay}

/-- What an access is told as long as backend and cache have the relay for its host. -/
def Tells (relay : Relay) : (access : Cache.Access) → access.Answer → Prop
  | .listRelays, answer => ∃ relays, answer = .ok relays ∧ relay.IsOnlyOne relays
  | .cachedRelays, relays => relay.IsOnlyOne relays
  | .cachedRelay host, found => host = relay.host → found = some relay
  | .getRelay host, answer =>
      ∃ found,
        answer = .ok found
        ∧ (host = relay.host → found = some relay)
        ∧ ∀ other, found = some other → other.host = host
  | _, _ => True

/-- The access neither registers nor caches another relay for the host. -/
def Spares (relay : Relay) : Cache.Access → Prop
  | .putRelay other => other.host ≠ relay.host
  | .cacheRelay other => other.host = relay.host → other = relay
  | _ => True

end Cache.Access

/-- An access that spares a relay is told of it and leaves it where it is, by cases on the
accesses.
-/
theorem Cached.Settled.perform {relay : Relay} {shared : Cached} (settled : shared.Settled relay)
    (access : Cache.Access) (spares : access.Spares relay)
    : access.Tells relay (Cached.perform access shared).1
      ∧ (Cached.perform access shared).2.Settled relay := by
  have filed := settled.filed
  have contents : (Cached.perform access shared).2.backend.memory.relays.get? relay.host
      = some relay := by
    refine (filed.perform_contents ?_).trans settled.contents
    rintro other rfl
    exact spares
  have cached : (Cached.perform access shared).2.cache.relays.get? relay.host = some relay := by
    by_cases takes : access = .cacheRelay relay
    · subst takes
      exact Table.get?_insert_same ..
    · refine (Cached.perform_cached ?_ shared).trans settled.cached
      rintro other rfl same
      exact takes (congrArg _ (spares same))
  refine ⟨?_, filed.perform access, contents, cached⟩
  cases access with
  | listRelays =>
      simp only [Cached.perform, Backend.read, Backend.call_works filed.works]
      exact ⟨_, rfl, filed.contents.isOnlyOne settled.contents⟩
  | cachedRelays => exact filed.cached.isOnlyOne settled.cached
  | cachedRelay host =>
      rintro rfl
      exact settled.cached
  | getRelay host =>
      simp only [Cached.perform, Backend.read, Backend.call_works filed.works]
      refine ⟨_, rfl, ?_, filed.contents host⟩
      rintro rfl
      exact settled.contents
  | _ => trivial

-----------------------------------------------------------------------------------------
-- Requests that are told of a relay
-----------------------------------------------------------------------------------------

namespace Cache

variable {α : Type} {relay : Relay} {next : Operation α}
  {told : (access : Access) → access.Answer → Prop} {allowed : Access → Prop}
  {suits : Except StoreFault α → Prop}

/-- Taking relays over is allowed if each of them is, by induction over them. -/
theorem cacheRelays_relies (follows : next.Relies told allowed suits) {relays : List Relay}
    (each : ∀ other ∈ relays, allowed (.cacheRelay other))
    : (cacheRelays next relays).Relies told allowed suits := by
  induction relays with
  | nil => exact follows
  | cons first rest ih =>
      obtain ⟨one, others⟩ := List.forall_mem_cons.mp each
      exact ⟨one, fun _ _ => ih others⟩

/-- What is left of loading the relays that the backend listed. -/
def taking (next : Operation α) (relays : List Relay) : Operation α :=
  cacheRelays (.ask .markLoaded fun _ => next) relays

/-- What is left of loading the relays once the cache is seen not to have them. -/
def listing (next : Operation α) : Operation α :=
  .ask .listRelays fun answer =>
    match answer with
    | .error fault => .done (.error fault)
    | .ok relays => taking next relays

/-- Loading takes over what the backend lists, in which the relay is the only one for its host. -/
theorem listing_relies (follows : next.Relies (Access.Tells relay) (Access.Spares relay) suits)
    : (listing next).Relies (Access.Tells relay) (Access.Spares relay) suits := by
  refine ⟨trivial, fun answer heard => ?_⟩
  obtain ⟨relays, rfl, only⟩ := heard
  have marking : Program.Relies (Access.Tells relay) (Access.Spares relay) suits
      (.ask .markLoaded fun _ => next) :=
    ⟨trivial, fun _ _ => follows⟩
  exact cacheRelays_relies marking fun other member => only.eq member

/-- A read that loads the relays first spares the relay if what follows does. -/
theorem afterLoading_relies
    (follows : next.Relies (Access.Tells relay) (Access.Spares relay) suits)
    : (afterLoading next).Relies (Access.Tells relay) (Access.Spares relay) suits := by
  refine ⟨trivial, fun loaded _ => ?_⟩
  cases loaded with
  | true => exact follows
  | false => exact listing_relies follows

/-- What is left of asking for all relays once they are loaded. -/
def showing : Operation (List Relay) := .ask .cachedRelays fun relays => .done (.ok relays)

/-- What is left of asking for the relay of a host that the cache does not have. -/
def fetching (host : String) : Operation (Option Relay) :=
  .ask (.getRelay host) fun answer =>
    match answer with
    | .error fault => .done (.error fault)
    | .ok none => .done (.ok none)
    | .ok (some relay) => .ask (.cacheRelay relay) fun _ => .done (.ok (some relay))

/-- What is left of asking for the relay of a host once the relays are loaded. -/
def lookingUp (host : String) : Operation (Option Relay) :=
  .ask (.cachedRelay host) fun cached =>
    match cached with
    | some relay => .done (.ok (some relay))
    | none => fetching host

/-- A listing gives the relay for its host. -/
theorem showing_relies (relay : Relay)
    : showing.Relies (Access.Tells relay) (Access.Spares relay)
        (StoreRequest.Gives relay .listRelays) :=
  ⟨trivial, fun relays only => ⟨relays, rfl, only⟩⟩

/-- What the backend is asked for gives the relay for its host. -/
theorem fetching_relies (relay : Relay) (host : String)
    : (fetching host).Relies (Access.Tells relay) (Access.Spares relay)
        (StoreRequest.Gives relay (.getRelay host)) := by
  refine ⟨trivial, fun answer heard => ?_⟩
  obtain ⟨found, rfl, own, named⟩ := heard
  have gives : host = relay.host → (.ok found : Except StoreFault _) = .ok (some relay) :=
    fun same => congrArg _ (own same)
  cases found with
  | none => exact gives
  | some other =>
      refine ⟨fun same => ?_, fun _ _ => gives⟩
      have asked : host = relay.host := (named other rfl).symm.trans same
      exact Option.some.inj (own asked)

/-- What is looked up gives the relay for its host. -/
theorem lookingUp_relies (relay : Relay) (host : String)
    : (lookingUp host).Relies (Access.Tells relay) (Access.Spares relay)
        (StoreRequest.Gives relay (.getRelay host)) := by
  refine ⟨trivial, fun cached heard => ?_⟩
  cases cached with
  | some other => exact fun same => congrArg _ (heard same)
  | none => exact fetching_relies relay host

end Cache

/-- A request that neither reads relays nor registers one for the host spares the relay. -/
theorem Cache.Access.BelongsTo.spares {relay : Relay} {request : StoreRequest}
    {access : Cache.Access} (belongs : access.BelongsTo request)
    (unread : ¬ request.ReadsRelays) (unput : ¬ request.PutsRelay relay.host)
    : access.Spares relay := by
  cases access with
  | putRelay other => exact fun same => unput ⟨other, belongs, same⟩
  | cacheRelay other =>
      rcases belongs with listed | fetched | filed
      · exact (unread (.inl listed)).elim
      · exact (unread (.inr fetched)).elim
      · exact fun same => (unput ⟨other, filed, same⟩).elim
  | _ => trivial

/-- A request that does not register a relay for the host spares the relay, and is given it. -/
theorem StoreRequest.operation?_relies {relay : Relay} {request : StoreRequest}
    {operation : Cache.Operation request.Answer} (known : request.operation? = some operation)
    (unput : ¬ request.PutsRelay relay.host)
    : operation.Relies (Cache.Access.Tells relay) (Cache.Access.Spares relay)
        (request.Gives relay) := by
  have asks := operation?_asksOnly known
  cases request with
  | listRelays =>
      obtain rfl := Option.some.inj known
      exact Cache.afterLoading_relies (Cache.showing_relies relay)
  | getRelay host =>
      obtain rfl := Option.some.inj known
      exact Cache.afterLoading_relies (Cache.lookingUp_relies relay host)
  | validateKey | putKey | putRelay =>
      exact .of_asksOnly asks fun _ belongs => belongs.spares (by simp [ReadsRelays]) unput
  | _ => cases known

-----------------------------------------------------------------------------------------
-- Reads that find the cache loaded
-----------------------------------------------------------------------------------------

namespace Cache.Access

/-- What an access is told as long as the cache is loaded and has a relay for the host. -/
def TellsLoaded (host : String) : (access : Cache.Access) → access.Answer → Prop
  | .isLoaded, loaded => loaded = true
  | .cachedRelay wanted, found => wanted = host → found ≠ none
  | .getRelay wanted, answer => ∀ other, answer = .ok (some other) → other.host = wanted
  | _, _ => True

/-- The access caches no relay for the host. -/
def LeavesAlone (host : String) : Cache.Access → Prop
  | .cacheRelay other => other.host ≠ host
  | _ => True

end Cache.Access

/-- A cache that is loaded and has a relay for the host stays so, by cases on the accesses. -/
theorem Cached.Filed.perform_warm {shared : Cached} {host : String} (filed : shared.Filed)
    (loaded : shared.cache.loaded = true) (known : shared.cache.relays.get? host ≠ none)
    (access : Cache.Access)
    : access.TellsLoaded host (Cached.perform access shared).1
      ∧ (Cached.perform access shared).2.cache.loaded = true
      ∧ (Cached.perform access shared).2.cache.relays.get? host ≠ none := by
  refine ⟨?_, Cached.perform_loaded access loaded, ?_⟩
  · cases access with
    | isLoaded => exact loaded
    | cachedRelay wanted =>
        rintro rfl
        exact known
    | getRelay wanted =>
        simp only [Cached.perform, Backend.read, Backend.call_works filed.works]
        exact fun other found => filed.contents wanted other (Except.ok.inj found)
    | _ => trivial
  · by_cases takes : ∃ taken, access = .cacheRelay taken ∧ taken.host = host
    · obtain ⟨taken, rfl, rfl⟩ := takes
      simp [Cached.perform, Cache.takeRelay]
    · rw [Cached.perform_cached fun taken same named => takes ⟨taken, same, named⟩]
      exact known

/-- A read that finds the cache loaded and a relay for the host in it leaves the host alone. -/
theorem StoreRequest.operation?_leavesAlone {request : StoreRequest}
    {operation : Cache.Operation request.Answer} (known : request.operation? = some operation)
    (reads : request.ReadsRelays) (host : String)
    : operation.Relies (Cache.Access.TellsLoaded host) (Cache.Access.LeavesAlone host)
        fun _ => True := by
  rcases reads with rfl | ⟨wanted, rfl⟩
  · obtain rfl := Option.some.inj known
    refine ⟨trivial, fun loaded heard => ?_⟩
    subst heard
    exact ⟨trivial, fun _ _ => trivial⟩
  · obtain rfl := Option.some.inj known
    refine ⟨trivial, fun loaded heard => ?_⟩
    subst heard
    refine ⟨trivial, fun cached has => ?_⟩
    cases cached with
    | some relay => trivial
    | none =>
        refine ⟨trivial, fun answer named => ?_⟩
        rcases answer with fault | found
        · trivial
        · cases found with
          | none => trivial
          | some relay =>
              refine ⟨?_, fun _ _ => trivial⟩
              exact fun same => has ((named relay rfl).symm.trans same) rfl

-----------------------------------------------------------------------------------------
-- How far reads are
-----------------------------------------------------------------------------------------

namespace Cache

variable {α : Type} {relay stale : Relay} {host : String} {next rest : Operation α}
  {loaded : Bool} {relays : List Relay}

/-- The procedure caches a relay before it asks for anything. -/
def AboutToCache (relay : Relay) : Operation α → Prop
  | .ask (.cacheRelay first) next => first = relay ∨ AboutToCache relay (next ())
  | _ => False

/-- The procedure marks the cache as loaded before it asks for anything, and caches no relay of
the host until then.
-/
def AboutToLoad (host : String) : Operation α → Prop
  | .ask .markLoaded _ => True
  | .ask (.cacheRelay first) next => first.host ≠ host ∧ AboutToLoad host (next ())
  | _ => False

/-- Loading is about to cache exactly what is left to take over. -/
theorem aboutToCache_taking (relay : Relay) (next : Operation α) (relays : List Relay)
    : AboutToCache relay (taking next relays) ↔ relay ∈ relays := by
  induction relays with
  | nil => simp [taking, cacheRelays, AboutToCache]
  | cons first rest ih =>
      rw [List.mem_cons, ← ih, eq_comm]
      rfl

/-- What a procedure is about to cache it is allowed to cache. -/
theorem AboutToCache.allowed {told : (access : Access) → access.Answer → Prop}
    {allowed : Access → Prop} {suits : Except StoreFault α → Prop} (caches : AboutToCache relay rest)
    (relies : rest.Relies told allowed suits) (heard : ∀ other, told (.cacheRelay other) ())
    : allowed (.cacheRelay relay) := by
  induction rest with
  | done answer => exact caches.elim
  | ask access next ih =>
      cases access with
      | cacheRelay first =>
          rcases caches with rfl | caches
          · exact relies.1
          · exact ih () caches (relies.2 () (heard first))
      | _ => exact caches.elim

/-- Loading leaves a host alone that none of the relays left is for. -/
theorem aboutToLoad_taking (next : Operation α) (others : ∀ other ∈ relays, other.host ≠ host)
    : AboutToLoad host (taking next relays) := by
  induction relays with
  | nil => trivial
  | cons first rest ih =>
      obtain ⟨one, others⟩ := List.forall_mem_cons.mp others
      exact ⟨one, ih others⟩

/-- How far the loading is of a read that goes on with `next`. The relays that it has still to
take over are for different hosts.
-/
inductive Loading (next : Operation α) (loaded : Bool) : Operation α → Prop
  | begun : Loading next loaded (afterLoading next)
  | listing : Loading next loaded (listing next)
  | taking {relays : List Relay} (distinct : (relays.map (·.host)).Nodup)
    : Loading next loaded (taking next relays)
  | past {rest : Operation α} (done : loaded = true) (left : next.Leaves rest)
    : Loading next loaded rest

namespace Loading

variable {shared : Cached} {access : Access}

/-- A read is as far with its loading when the cache has been loaded meanwhile. -/
theorem mono {later : Bool} (loading : Loading next loaded rest)
    (stays : loaded = true → later = true)
    : Loading next later rest := by
  cases loading with
  | begun => exact .begun
  | listing => exact .listing
  | taking distinct => exact .taking distinct
  | past done left => exact .past (stays done) left

/-- An access of its own takes a read on. -/
theorem goesOn {following : access.Answer → Operation α} {next : Operation α}
    (filed : shared.Filed) (loading : Loading next shared.cache.loaded (.ask access following))
    : Loading next (Cached.perform access shared).2.cache.loaded
        (following (Cached.perform access shared).1) := by
  generalize asked : Program.ask access following = rest at loading
  cases loading with
  | begun =>
      cases asked
      cases known : shared.cache.loaded with
      | true =>
          simp only [Cached.perform, known]
          exact .past rfl .whole
      | false =>
          simp only [Cached.perform, known]
          exact .listing
  | listing =>
      cases asked
      simp only [Cached.perform, Backend.read, Backend.call_works filed.works]
      exact .taking filed.contents.names_nodup
  | @taking relays distinct =>
      cases relays with
      | nil =>
          cases asked
          exact .past rfl .whole
      | cons first rest =>
          cases asked
          exact .taking (List.nodup_cons.mp distinct).2
  | past done left =>
      subst asked
      exact .past (Cached.perform_loaded access done) (left.answered _)

end Loading

/-- How far a request is that reads relays. -/
def Reading (loaded : Bool) : (request : StoreRequest) → Operation request.Answer → Prop
  | .listRelays, rest => Loading showing loaded rest
  | .getRelay host, rest => Loading (lookingUp host) loaded rest
  | _, _ => True

namespace Reading

variable {request : StoreRequest}

/-- A request that begins is at the beginning of its procedure. -/
theorem begun {operation : Operation request.Answer} (known : request.operation? = some operation)
    (loaded : Bool)
    : Reading loaded request operation := by
  cases request with
  | listRelays | getRelay =>
      obtain rfl := Option.some.inj known
      exact .begun
  | _ => trivial

/-- A read is as far when the cache has been loaded meanwhile. -/
theorem mono {rest : Operation request.Answer} {later : Bool}
    (reading : Reading loaded request rest) (stays : loaded = true → later = true)
    : Reading later request rest := by
  cases request with
  | listRelays | getRelay => exact Loading.mono reading stays
  | _ => trivial

/-- A read that makes its next access is on its way with what it is told. -/
theorem goesOn {shared : Cached} {access : Access}
    {following : access.Answer → Operation request.Answer} (filed : shared.Filed)
    (reading : Reading shared.cache.loaded request (.ask access following))
    : Reading (Cached.perform access shared).2.cache.loaded request
        (following (Cached.perform access shared).1) := by
  cases request with
  | listRelays | getRelay => exact Loading.goesOn filed reading
  | _ => trivial

end Reading

/-- What can be left of looking up a relay, by induction on the answers. -/
theorem lookingUp_leaves {rest : Operation (Option Relay)} (left : (lookingUp host).Leaves rest)
    : rest = lookingUp host
      ∨ rest = fetching host
      ∨ (∃ relay, rest = .ask (.cacheRelay relay) fun _ => .done (.ok (some relay)))
      ∨ ∃ answer, rest = .done answer := by
  induction left with
  | whole => exact .inl rfl
  | answered _ answer ih =>
      rcases ih with looking | fetching | ⟨relay, caching⟩ | ⟨value, ended⟩
      · cases looking
        cases answer with
        | some relay => exact .inr (.inr (.inr ⟨_, rfl⟩))
        | none => exact .inr (.inl rfl)
      · cases fetching
        rcases answer with fault | found
        · exact .inr (.inr (.inr ⟨_, rfl⟩))
        · cases found with
          | some relay => exact .inr (.inr (.inl ⟨relay, rfl⟩))
          | none => exact .inr (.inr (.inr ⟨_, rfl⟩))
      · cases caching
        exact .inr (.inr (.inr ⟨_, rfl⟩))
      · cases ended

/-- A read spares a relay if it is not about to cache another one for the host. -/
theorem Loading.relies {suits : Except StoreFault α → Prop} (loading : Loading next loaded rest)
    (follows : next.Relies (Access.Tells relay) (Access.Spares relay) suits)
    (spares : ∀ other, AboutToCache other rest → other.host = relay.host → other = relay)
    (left
      : next.Leaves rest
        → rest.Relies (Access.Tells relay) (Access.Spares relay) fun _ => True)
    : rest.Relies (Access.Tells relay) (Access.Spares relay) fun _ => True := by
  cases loading with
  | begun => exact (afterLoading_relies follows).mono fun _ _ => trivial
  | listing => exact (listing_relies follows).mono fun _ _ => trivial
  | @taking relays _ =>
      have marking : Program.Relies (Access.Tells relay) (Access.Spares relay) (fun _ => True)
          (.ask .markLoaded fun _ => next) :=
        ⟨trivial, fun _ _ => follows.mono fun _ _ => trivial⟩
      refine cacheRelays_relies marking fun other member => ?_
      exact spares other ((aboutToCache_taking other next relays).mpr member)
  | past _ leaves => exact left leaves

/-- A read that is about to cache nothing else for the host spares the relay. -/
theorem Reading.relies {request : StoreRequest} {rest : Operation request.Answer}
    (reads : request.ReadsRelays) (reading : Reading loaded request rest)
    (spares : ∀ other, AboutToCache other rest → other.host = relay.host → other = relay)
    : rest.Relies (Access.Tells relay) (Access.Spares relay) fun _ => True := by
  rcases reads with rfl | ⟨host, rfl⟩
  · refine Loading.relies reading (showing_relies relay) spares fun left => ?_
    have asks : showing.AsksOnly (Access.Spares relay) := ⟨trivial, fun _ => trivial⟩
    exact .of_asksOnly (asks.left left) fun _ allowed => allowed
  · refine Loading.relies reading (lookingUp_relies relay host) spares fun left => ?_
    rcases lookingUp_leaves left with rfl | rfl | ⟨other, rfl⟩ | ⟨answer, rfl⟩
    · exact (lookingUp_relies relay host).mono fun _ _ => trivial
    · exact (fetching_relies relay host).mono fun _ _ => trivial
    · exact ⟨spares other (.inl rfl), fun _ _ => trivial⟩
    · trivial

end Cache

end FleetOps
