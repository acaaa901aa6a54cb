import FleetOps.Proofs.Store.RelayReads
import FleetOps.Proofs.Store.Relays

/-! Whether a relay that was registered is given out for its host from then on, when relays are
read and registered at the same time. It is unless a read that was told of another relay for the
host caches that one after the registration has cached its own.
-/

namespace FleetOps

-----------------------------------------------------------------------------------------
-- While a relay is registered
-----------------------------------------------------------------------------------------

namespace Traffic

variable {memory : Memory} {relay stale : Relay} {host : String} {before during : List Move}
  {traffic later : Traffic} {move : Move} {number : Nat} {warm : Prop}

/-- All relays are filed under their hosts, and every read is somewhere on its way. -/
structure Consistent (traffic : Traffic) : Prop where
  regular : traffic.Regular
  filed : traffic.shared.Filed
  reading
    : traffic.Each fun _ call => Cache.Reading traffic.shared.cache.loaded call.request call.rest

namespace Consistent

/-- Quiet traffic over filed relays is consistent. -/
theorem quiet (filed : memory.relays.FiledBy (·.host)) : (Traffic.quiet memory).Consistent where
  regular := .quiet memory
  filed := { works := rfl, contents := filed, cached := .empty }
  reading := by
    intro number call found
    cases found

/-- A move keeps traffic consistent. -/
theorem moves (consistent : traffic.Consistent) (moves : traffic.Moves move later)
    : later.Consistent := by
  have regular := consistent.regular.moves moves
  cases moves with
  | idle => exact consistent
  | @began request operation known =>
      exact ⟨regular, consistent.filed, consistent.reading.began (.begun known _)⟩
  | @accessed number request access next found =>
      have reading : Cache.Reading traffic.shared.cache.loaded request (.ask access next) :=
        consistent.reading number _ found
      refine ⟨regular, consistent.filed.perform access, Each.accessed ?_ ?_ _⟩
      · exact consistent.reading.mono fun _ _ reading =>
          reading.mono (Cached.perform_loaded access)
      · exact reading.goesOn consistent.filed

/-- Any number of moves keep traffic consistent. -/
theorem after (consistent : traffic.Consistent) (moves : List Move)
    : (traffic.after moves).Consistent :=
  after_induct consistent fun _ _ _ _ earlier moves => earlier.moves moves

end Consistent

/-- The cache is loaded, or a call is about to mark it so that leaves the host alone. -/
def WillLoad (traffic : Traffic) (host : String) : Prop :=
  traffic.shared.cache.loaded = true ∨ ∃ call ∈ traffic.calls, Cache.AboutToLoad host call.rest

/-- A call that is about to mark the cache as loaded does so, or is still about to. -/
theorem WillLoad.moves (will : traffic.WillLoad host) (moves : traffic.Moves move later)
    : later.WillLoad host := by
  cases moves with
  | idle => exact will
  | began known =>
      refine will.imp_right ?_
      rintro ⟨call, member, loads⟩
      exact ⟨call, List.mem_append_left _ member, loads⟩
  | @accessed number request access next found =>
      rcases will with loaded | ⟨call, member, loads⟩
      · exact .inl (Cached.perform_loaded access loaded)
      · obtain ⟨other, asked⟩ := List.mem_iff_getElem?.mp member
        have bound := (List.getElem?_eq_some_iff.mp found).1
        by_cases same : number = other
        · subst same
          obtain rfl := Option.some.inj (found.symm.trans asked)
          cases access with
          | markLoaded => exact .inl rfl
          | cacheRelay first =>
              exact .inr ⟨_, List.mem_of_getElem? (List.getElem?_set_self bound), loads.2⟩
          | _ => exact loads.elim
        · refine .inr ⟨call, ?_, loads⟩
          exact List.mem_of_getElem? ((List.getElem?_set_ne same).trans asked)

/-- A read that caches a relay has loaded the cache before, or is about to mark it as loaded. -/
theorem Consistent.willLoad {request : StoreRequest}
    {next : Unit → Cache.Operation request.Answer} (consistent : traffic.Consistent)
    (found
      : traffic.calls[number]? = some { request := request, rest := .ask (.cacheRelay stale) next })
    (reads : request.ReadsRelays)
    : (traffic.move (.accesses number)).WillLoad stale.host := by
  have loading {α : Type} {rest : Cache.Operation α} {after : Unit → Cache.Operation α}
      (loading : Cache.Loading rest traffic.shared.cache.loaded (.ask (.cacheRelay stale) after))
      : traffic.shared.cache.loaded = true ∨ Cache.AboutToLoad stale.host (after ()) := by
    generalize asked
      : (.ask (.cacheRelay stale) after : Cache.Operation α) = left at loading
    cases loading with
    | begun => cases asked
    | listing => cases asked
    | @taking relays distinct =>
        cases relays with
        | nil => cases asked
        | cons first others =>
            cases asked
            refine .inr (Cache.aboutToLoad_taking rest fun other member same => ?_)
            exact (List.nodup_cons.mp distinct).1 (List.mem_map.mpr ⟨other, member, same⟩)
    | past done left => exact .inl done
  have reading : Cache.Reading traffic.shared.cache.loaded request (.ask (.cacheRelay stale) next) :=
    consistent.reading number _ found
  have will : traffic.shared.cache.loaded = true ∨ Cache.AboutToLoad stale.host (next ()) := by
    rcases reads with rfl | ⟨host, rfl⟩
    · exact loading reading
    · exact loading reading
  refine will.imp (fun loaded => ?_) fun loads => ?_
  · rw [move_accesses found]
    exact Cached.perform_loaded _ loaded
  · exact ⟨_, List.mem_of_getElem? (getElem?_move_accesses found), loads⟩

/-- The cache is loaded and has a relay for the host, and all reads go by that. -/
structure Warm (host : String) (traffic : Traffic) : Prop where
  loaded : traffic.shared.cache.loaded = true
  known : traffic.shared.cache.relays.get? host ≠ none
  reads
    : traffic.Each fun _ call =>
        call.request.ReadsRelays
        → call.rest.Relies (Cache.Access.TellsLoaded host) (Cache.Access.LeavesAlone host)
            fun _ => True

/-- A move keeps the host warm. -/
theorem Warm.moves (warm : traffic.Warm host) (consistent : traffic.Consistent)
    (moves : traffic.Moves move later)
    : later.Warm host := by
  cases moves with
  | idle => exact warm
  | @began request operation known =>
      refine ⟨warm.loaded, warm.known, warm.reads.began fun reads => ?_⟩
      exact StoreRequest.operation?_leavesAlone known reads host
  | @accessed number request access next asked =>
      obtain ⟨heard, loaded, known⟩ := consistent.filed.perform_warm warm.loaded warm.known access
      refine ⟨loaded, known, warm.reads.accessed (fun reads => ?_) _⟩
      exact (warm.reads number _ asked reads).2 _ heard

/-- How far the registration of a relay is and what it has come to. If the cache has another relay
for the host in the end, it is loaded or about to be, and was not warm.
-/
inductive FilingStage (relay : Relay) (warm : Prop) (traffic : Traffic)
    : Cache.Operation Unit → Prop
  | begun : FilingStage relay warm traffic (Cache.putRelay relay)
  | halfway (contents : traffic.shared.backend.memory.relays.get? relay.host = some relay)
    : FilingStage relay warm traffic (.ask (.cacheRelay relay) fun _ => .done (.ok ()))
  | returned (answer : Except StoreFault Unit)
    (contents : traffic.shared.backend.memory.relays.get? relay.host = some relay)
    (cached
      : ∃ other,
          traffic.shared.cache.relays.get? relay.host = some other
          ∧ (other = relay ∨ traffic.WillLoad relay.host)
          ∧ (warm → other = relay))
    : FilingStage relay warm traffic (.done answer)

/-- A registration under way, while nobody else registers a relay for the host. -/
structure Registering (relay : Relay) (warm : Prop) (number : Nat) (traffic : Traffic)
    : Prop where
  consistent : traffic.Consistent
  stage
    : ∃ rest,
        traffic.calls[number]? = some { request := .putRelay relay, rest := rest }
        ∧ traffic.FilingStage relay warm rest
  unput
    : traffic.Each fun other call =>
        other ≠ number → call.request.PutsRelay relay.host → call.Returned
  warm : warm → traffic.Warm relay.host

namespace Registering

/-- An access of another call leaves a registration where it is. -/
theorem elsewhere {other : Nat} {request : StoreRequest} {access : Cache.Access}
    {next : access.Answer → Cache.Operation request.Answer} {rest : Cache.Operation Unit}
    (registering : traffic.Registering relay warm number)
    (asked : traffic.calls[other]? = some { request := request, rest := .ask access next })
    (different : other ≠ number) (stage : traffic.FilingStage relay warm rest)
    : (traffic.move (.accesses other)).FilingStage relay warm rest := by
  have belongs := registering.consistent.regular.belongs asked
  have unput : ¬ request.PutsRelay relay.host := fun puts =>
    Call.not_returned (registering.unput other _ asked different puts)
  have contents (has : traffic.shared.backend.memory.relays.get? relay.host = some relay)
      : (traffic.move (.accesses other)).shared.backend.memory.relays.get? relay.host
        = some relay := by
    rw [move_accesses asked]
    refine (registering.consistent.filed.perform_contents ?_).trans has
    rintro filed rfl named
    exact unput ⟨filed, belongs, named⟩
  cases stage with
  | begun => exact .begun
  | halfway has => exact .halfway (contents has)
  | returned answer has cached =>
      refine .returned answer (contents has) ?_
      by_cases takes : ∃ taken, access = .cacheRelay taken ∧ taken.host = relay.host
      · obtain ⟨taken, rfl, named⟩ := takes
        have reads : request.ReadsRelays := by
          rcases belongs with listed | found | filed
          · exact .inl listed
          · exact .inr found
          · exact (unput ⟨taken, filed, named⟩).elim
        refine ⟨taken, ?_, .inr (named ▸ registering.consistent.willLoad asked reads), ?_⟩
        · rw [move_accesses asked, ← named]
          exact Table.get?_insert_same ..
        · exact fun h => (((registering.warm h).reads other _ asked reads).1 named).elim
      · obtain ⟨held, found, shown, kept⟩ := cached
        refine ⟨held, ?_, shown.imp_right fun will => will.moves (moves_move _ _), kept⟩
        rw [move_accesses asked]
        refine (Cached.perform_cached ?_ traffic.shared).trans found
        exact fun taken same named => takes ⟨taken, same, named⟩

/-- An access of its own takes a registration on. -/
theorem goesOn {access : Cache.Access} {next : access.Answer → Cache.Operation Unit}
    (registering : traffic.Registering relay warm number)
    (asked
      : traffic.calls[number]? = some { request := .putRelay relay, rest := .ask access next })
    (stage : traffic.FilingStage relay warm (.ask access next))
    : (traffic.move (.accesses number)).FilingStage relay warm
        (next (Cached.perform access traffic.shared).1) := by
  have works := registering.consistent.filed.works
  have performed := congrArg Traffic.shared (move_accesses asked)
  generalize left : Program.ask access next = rest at stage
  cases stage with
  | begun =>
      cases left
      simp only [Cached.perform, Backend.write, Backend.call_works works] at performed ⊢
      refine .halfway ?_
      rw [performed]
      exact Table.get?_insert_same ..
  | halfway contents =>
      cases left
      refine .returned _ ?_ ⟨relay, ?_, .inl rfl, fun _ => rfl⟩
      · rw [performed]
        exact contents
      · rw [performed]
        exact Table.get?_insert_same ..
  | returned => cases left

/-- Every move leaves a registration where it is or takes it on, unless another one begins. -/
theorem moves (registering : traffic.Registering relay warm number)
    (alone : ∀ request, move = .begins request → ¬ request.PutsRelay relay.host)
    (moves : traffic.Moves move later)
    : later.Registering relay warm number := by
  obtain ⟨rest, found, stage⟩ := registering.stage
  have bound : number < traffic.calls.length := (List.getElem?_eq_some_iff.mp found).1
  have consistent := registering.consistent.moves moves
  have warm := fun h => (registering.warm h).moves registering.consistent moves
  cases moves with
  | idle => exact registering
  | @began request operation known =>
      refine ⟨consistent, ⟨rest, (List.getElem?_append_left bound).trans found, ?_⟩,
        registering.unput.began fun _ puts => (alone request rfl puts).elim, warm⟩
      cases stage with
      | begun => exact .begun
      | halfway contents => exact .halfway contents
      | returned answer contents cached =>
          obtain ⟨other, held, shown, kept⟩ := cached
          refine .returned answer contents ⟨other, held, shown.imp_right fun will => ?_, kept⟩
          exact will.moves (.began known)
  | @accessed other request access next asked =>
      refine ⟨consistent, ?_, ?_, warm⟩
      · by_cases same : other = number
        · subst same
          cases Option.some.inj (found.symm.trans asked)
          refine ⟨_, List.getElem?_set_self bound, ?_⟩
          rw [← move_accesses asked]
          exact registering.goesOn asked stage
        · refine ⟨rest, (List.getElem?_set_ne same).trans found, ?_⟩
          rw [← move_accesses asked]
          exact registering.elsewhere asked same stage
      · refine registering.unput.accessed (fun different puts => ?_) _
        exact (Call.not_returned (registering.unput other _ asked different puts)).elim

end Registering

-----------------------------------------------------------------------------------------
-- What calls leave in the cache when they go on alone
-----------------------------------------------------------------------------------------

section

variable {request : StoreRequest} {rest : Cache.Operation request.Answer}

/-- A call that is about to mark the cache as loaded gets there, by induction on what is left. -/
theorem after_aboutToLoad
    (found : traffic.calls[number]? = some { request := request, rest := rest })
    (loads : Cache.AboutToLoad host rest)
    : ∃ count,
        let later := traffic.after (List.replicate count (.accesses number))
        later.shared.cache.loaded = true
        ∧ later.shared.cache.relays.get? host = traffic.shared.cache.relays.get? host := by
  induction rest generalizing traffic with
  | done answer => exact loads.elim
  | ask access next ih =>
      cases access with
      | markLoaded =>
          refine ⟨1, ?_⟩
          rw [List.replicate_one, after_cons, after_nil, move_accesses found]
          exact ⟨rfl, rfl⟩
      | cacheRelay first =>
          obtain ⟨different, loads⟩ := loads
          obtain ⟨count, loaded, same⟩ := ih () (getElem?_move_accesses found) loads
          refine ⟨count + 1, loaded, same.trans ?_⟩
          rw [move_accesses found]
          exact Table.get?_insert_other _ _ different.symm
      | _ => exact loads.elim

/-- A call that is about to cache a relay gets there, by induction on what is left. -/
theorem after_aboutToCache
    (found : traffic.calls[number]? = some { request := request, rest := rest })
    (loaded : traffic.shared.cache.loaded = true) (caches : Cache.AboutToCache stale rest)
    : ∃ count,
        let later := traffic.after (List.replicate count (.accesses number))
        later.shared.cache.loaded = true
        ∧ later.shared.cache.relays.get? stale.host = some stale := by
  induction rest generalizing traffic with
  | done answer => exact caches.elim
  | ask access next ih =>
      have moved := move_accesses found
      cases access with
      | cacheRelay first =>
          rcases caches with rfl | caches
          · refine ⟨1, ?_⟩
            rw [List.replicate_one, after_cons, after_nil, moved]
            exact ⟨loaded, Table.get?_insert_same ..⟩
          · have still : (traffic.move (.accesses number)).shared.cache.loaded = true := by
              rw [moved]
              exact loaded
            obtain ⟨count, ends⟩ := ih () (getElem?_move_accesses found) still caches
            exact ⟨count + 1, ends⟩
      | _ => exact caches.elim

/-- A call that has still to take over relays for different hosts gets there with each of them, by
induction on the relays.
-/
theorem after_taking {next : Cache.Operation request.Answer} {relays : List Relay}
    (found
      : traffic.calls[number]? = some { request := request, rest := Cache.taking next relays })
    (distinct : (relays.map (·.host)).Nodup) (member : stale ∈ relays)
    : ∃ count,
        let later := traffic.after (List.replicate count (.accesses number))
        later.shared.cache.loaded = true
        ∧ later.shared.cache.relays.get? stale.host = some stale := by
  induction relays generalizing traffic with
  | nil => cases member
  | cons first others ih =>
      obtain ⟨absent, distinct⟩ := List.nodup_cons.mp distinct
      have goesOn : (traffic.move (.accesses number)).calls[number]?
          = some { request := request, rest := Cache.taking next others } :=
        getElem?_move_accesses found
      rcases List.mem_cons.mp member with rfl | member
      · have loads : Cache.AboutToLoad stale.host (Cache.taking next others) :=
          Cache.aboutToLoad_taking next fun other member same =>
            absent (List.mem_map.mpr ⟨other, member, same⟩)
        obtain ⟨count, loaded, same⟩ := after_aboutToLoad goesOn loads
        refine ⟨count + 1, loaded, same.trans ?_⟩
        rw [move_accesses found]
        exact Table.get?_insert_same ..
      · obtain ⟨count, ends⟩ := ih goesOn distinct member
        exact ⟨count + 1, ends⟩

end

-----------------------------------------------------------------------------------------
-- Whether a registration lasts
-----------------------------------------------------------------------------------------

/-- What comes of a registration that begins after some moves, and of more moves. -/
def afterRegistration (memory : Memory) (relay : Relay) (before during : List Move) : Traffic :=
  (quiet memory).after (before ++ .begins (.putRelay relay) :: during)

/-- A registration of a relay that has returned, and that no other one for the host overlapped. -/
structure LoneRegistration (memory : Memory) (relay : Relay) (before during : List Move)
    : Prop where
  earlier
    : ∀ call ∈ ((quiet memory).after before).calls,
        call.request.PutsRelay relay.host → call.Returned
  alone : ∀ request, .begins request ∈ during → ¬ request.PutsRelay relay.host
  returned
    : ∃ answer,
        (afterRegistration memory relay before during).calls[
            ((quiet memory).after before).calls.length]?
          = some { request := .putRelay relay, rest := .done answer }

/-- As long as no relay is registered for the host again, every call that begins from now on and
asks for the relay of the host, or for all relays, is given this one for the host: one that has
returned was, and any other is when it goes on alone.
-/
def Registers (traffic : Traffic) (relay : Relay) : Prop :=
  ∀ later,
    (∀ request, .begins request ∈ later → ¬ request.PutsRelay relay.host)
    → ∀ number call,
        traffic.calls.length ≤ number
        → (traffic.after later).calls[number]? = some call
        → call.request.Gives relay ((traffic.after later).shared.run call.rest).1

/-- The cache has another relay for the host, or a call is about to cache one. -/
def Stale (traffic : Traffic) (relay : Relay) : Prop :=
  ∃ stale,
    stale.host = relay.host
    ∧ stale ≠ relay
    ∧ (traffic.shared.cache.relays.get? relay.host = some stale
      ∨ ∃ call ∈ traffic.calls, Cache.AboutToCache stale call.rest)

/-- A relay that backend and cache have and that every call spares. The calls from a number on
began after this was so.
-/
structure Registered (relay : Relay) (since : Nat) (traffic : Traffic) : Prop where
  settled : traffic.shared.Settled relay
  calls
    : traffic.Each fun number call =>
        call.rest.Relies (Cache.Access.Tells relay) (Cache.Access.Spares relay) fun answer =>
          since ≤ number → call.request.Gives relay answer

/-- Every move leaves a relay registered, unless another one is registered for the host. -/
theorem Registered.moves {since : Nat} (registered : traffic.Registered relay since)
    (unput : ∀ request, move = .begins request → ¬ request.PutsRelay relay.host)
    (moves : traffic.Moves move later)
    : later.Registered relay since := by
  cases moves with
  | idle => exact registered
  | @began request operation known =>
      refine ⟨registered.settled, registered.calls.began ?_⟩
      exact (StoreRequest.operation?_relies known (unput request rfl)).mono fun _ gives _ => gives
  | @accessed number request access next asked =>
      obtain ⟨spares, relies⟩ := registered.calls number _ asked
      obtain ⟨heard, settled⟩ := registered.settled.perform access spares
      exact ⟨settled, registered.calls.accessed (relies _ heard) _⟩

/-- A relay that is registered for all calls from now on is what they are given. -/
theorem Registered.registers (registered : traffic.Registered relay traffic.calls.length)
    : traffic.Registers relay := by
  intro later unput number call late found
  have still := after_induct (motive := (·.Registered relay traffic.calls.length)) registered
    fun move member _ _ held moves =>
      held.moves (fun request begins => unput request (begins ▸ member)) moves
  have keeps := fun access shared (settled : Cached.Settled shared relay) spares =>
    settled.perform access spares
  exact (still.calls number call found).run keeps still.settled late

/-- A registered relay stays so while calls make more accesses. -/
theorem Registers.access (registers : traffic.Registers relay) (number : Nat)
    : (traffic.access number).Registers relay := by
  have same : (traffic.access number).calls.length = traffic.calls.length := by
    simp only [Traffic.access]
    split <;> simp
  intro later unput other call late found
  rw [same] at late
  refine registers (.accesses number :: later) ?_ other call late found
  intro request begins
  rcases List.mem_cons.mp begins with same | begins
  · cases same
  · exact unput request begins

/-- Accesses of a single call change nothing about what is registered. -/
theorem Registers.accesses (registers : traffic.Registers relay) (number count : Nat)
    : (traffic.after (List.replicate count (.accesses number))).Registers relay := by
  induction count generalizing traffic with
  | zero => exact registers
  | succ fewer ih => exact ih (registers.access number)

/-- A loaded cache has no other relay for a host than the registered one: else a call for the
relay of the host would be given that one at once.
-/
theorem Registers.cached {other : Relay} (registers : traffic.Registers relay)
    (loaded : traffic.shared.cache.loaded = true)
    (found : traffic.shared.cache.relays.get? relay.host = some other)
    : other = relay := by
  have shown : ((StoreRequest.getRelay relay.host).perform (.cached traffic.shared)).1
      = .ok (some other) := by
    rw [StoreRequest.perform_operation rfl]
    simp only [Cached.run, Cache.getRelay, Cache.afterLoading, Program.run, Cached.perform, loaded,
      found]
    rfl
  obtain ⟨count, shared, ended, _⟩ := traffic.after_begins_alone (.getRelay relay.host) rfl
  have gives := registers _ ?_ traffic.calls.length _ (Nat.le_refl _)
    ((congrArg (·.calls[traffic.calls.length]?) ended).trans List.getElem?_concat_length)
  · rw [shown] at gives
    exact Option.some.inj (Except.ok.inj (gives rfl))
  · intro request begins
    rcases List.mem_cons.mp begins with same | accesses
    · cases same
      rintro ⟨filed, same, _⟩
      cases same
    · cases (List.eq_of_mem_replicate accesses)

namespace Registering

/-- Once a registration has returned, all registrations for the host have. -/
theorem putsRelay {call : Call} {answer : Except StoreFault Unit} {other : Nat}
    (registering : traffic.Registering relay warm number)
    (returned : traffic.calls[number]? = some { request := .putRelay relay, rest := .done answer })
    (found : traffic.calls[other]? = some call) (puts : call.request.PutsRelay relay.host)
    : call.Returned := by
  by_cases same : other = number
  · subst same
    obtain rfl := Option.some.inj (found.symm.trans returned)
    exact ⟨answer, rfl⟩
  · exact registering.unput other call found same puts

/-- Once a registration has returned, only reads are about to cache a relay for the host. -/
theorem readsRelays {call : Call} {answer : Except StoreFault Unit} {other : Nat}
    (registering : traffic.Registering relay warm number)
    (returned : traffic.calls[number]? = some { request := .putRelay relay, rest := .done answer })
    (found : traffic.calls[other]? = some call) (caches : Cache.AboutToCache stale call.rest)
    (named : stale.host = relay.host)
    : call.request.ReadsRelays := by
  obtain ⟨operation, known, left⟩ := registering.consistent.regular.left other call found
  have asks := (StoreRequest.operation?_asksOnly known).left left
  have relies : call.rest.Relies (fun _ _ => True) (Cache.Access.BelongsTo call.request)
      fun _ => True :=
    .of_asksOnly asks fun _ belongs => belongs
  rcases caches.allowed relies fun _ => trivial with listed | fetched | filed
  · exact .inl listed
  · exact .inr fetched
  · obtain ⟨value, ended⟩ := registering.putsRelay returned found ⟨stale, filed, named⟩
    rw [ended] at caches
    exact caches.elim

/-- If a relay is registered once its registration has returned, nothing about it is stale. -/
theorem not_stale {answer : Except StoreFault Unit}
    (registering : traffic.Registering relay warm number)
    (returned : traffic.calls[number]? = some { request := .putRelay relay, rest := .done answer })
    (registers : traffic.Registers relay)
    : ¬ traffic.Stale relay := by
  rintro ⟨stale, named, different, held | ⟨⟨request, rest⟩, member, caches⟩⟩
  · obtain ⟨rest, found, stage⟩ := registering.stage
    cases Option.some.inj (found.symm.trans returned)
    cases stage with
    | returned _ _ cached =>
        obtain ⟨other, same, rfl | loaded | ⟨⟨request, rest⟩, member, loads⟩, _⟩ := cached
        · exact different (Option.some.inj (held.symm.trans same))
        · exact different (registers.cached loaded held)
        · obtain ⟨reader, asked⟩ := List.mem_iff_getElem?.mp member
          obtain ⟨count, loaded, kept⟩ := after_aboutToLoad asked loads
          exact different ((registers.accesses reader count).cached loaded (kept.trans held))
  · obtain ⟨reader, asked⟩ := List.mem_iff_getElem?.mp member
    have spoils {count : Nat}
        (ends
          : let later := traffic.after (List.replicate count (.accesses reader))
            later.shared.cache.loaded = true
            ∧ later.shared.cache.relays.get? stale.host = some stale)
        : False := by
      obtain ⟨loaded, held⟩ := ends
      rw [named] at held
      exact different ((registers.accesses reader count).cached loaded held)
    have loading {next : Cache.Operation request.Answer}
        (loading : Cache.Loading next traffic.shared.cache.loaded rest)
        : False := by
      cases loading with
      | begun => exact caches.elim
      | listing => exact caches.elim
      | taking distinct =>
          have pending := (Cache.aboutToCache_taking stale next _).mp caches
          obtain ⟨count, ends⟩ := after_taking asked distinct pending
          exact spoils ends
      | past loaded left =>
          obtain ⟨count, ends⟩ := after_aboutToCache asked loaded caches
          exact spoils ends
    have reading := registering.consistent.reading reader _ asked
    rcases registering.readsRelays returned asked caches named with rfl | ⟨host, rfl⟩
    · exact loading reading
    · exact loading reading

/-- A relay whose registration has returned is registered if nothing about it is stale. -/
theorem registered {answer : Except StoreFault Unit}
    (registering : traffic.Registering relay warm number)
    (returned : traffic.calls[number]? = some { request := .putRelay relay, rest := .done answer })
    (fresh : ¬ traffic.Stale relay)
    : traffic.Registered relay traffic.calls.length := by
  have consistent := registering.consistent
  obtain ⟨rest, found, stage⟩ := registering.stage
  cases Option.some.inj (found.symm.trans returned)
  cases stage with
  | returned _ contents cached =>
      obtain ⟨other, held, _⟩ := cached
      have same : other = relay := by
        by_contra different
        exact fresh ⟨other, consistent.filed.cached _ _ held, different, .inl held⟩
      refine ⟨⟨consistent.filed, contents, same ▸ held⟩, fun number call asked => ?_⟩
      have bound := (List.getElem?_eq_some_iff.mp asked).1
      have relies : call.rest.Relies (Cache.Access.Tells relay) (Cache.Access.Spares relay)
          fun _ => True := by
        by_cases reads : call.request.ReadsRelays
        · refine Cache.Reading.relies reads (consistent.reading number call asked) ?_
          intro other caches named
          by_contra different
          exact fresh ⟨other, named, different, .inr ⟨call, List.mem_of_getElem? asked, caches⟩⟩
        · by_cases puts : call.request.PutsRelay relay.host
          · obtain ⟨value, ended⟩ := registering.putsRelay returned asked puts
            rw [ended]
            trivial
          · obtain ⟨operation, known, left⟩ := consistent.regular.left number call asked
            have asks := (StoreRequest.operation?_asksOnly known).left left
            exact .of_asksOnly asks fun _ belongs => belongs.spares reads puts
      exact relies.mono fun _ _ late => (Nat.not_lt.mpr late bound).elim

end Registering

/-- The cache has been loaded with a relay for the host, and all reads have returned, when a
registration begins after some moves.
-/
structure FindsLoaded (memory : Memory) (host : String) (before : List Move) : Prop where
  loaded : ((quiet memory).after before).shared.cache.loaded = true
  known : ((quiet memory).after before).shared.cache.relays.get? host ≠ none
  reads : ∀ call ∈ ((quiet memory).after before).calls, call.request.ReadsRelays → call.Returned

namespace LoneRegistration

/-- A registration that no other one for the host overlaps is under way until it returns. -/
theorem registering (lone : LoneRegistration memory relay before during)
    (filed : memory.relays.FiledBy (·.host))
    : (afterRegistration memory relay before during).Registering relay
        (FindsLoaded memory relay.host before) ((quiet memory).after before).calls.length := by
  have consistent := (Consistent.quiet filed).after before
  have begun : (((quiet memory).after before).move (.begins (.putRelay relay))).Registering relay
      (FindsLoaded memory relay.host before) ((quiet memory).after before).calls.length :=
    {
      consistent := consistent.moves (moves_move _ _)
      stage := ⟨_, List.getElem?_concat_length, .begun⟩
      unput :=
        Each.began (fun _ call found _ puts => lone.earlier call (List.mem_of_getElem? found) puts)
          fun different => (different rfl).elim
      warm := fun finds => by
        have warm : ((quiet memory).after before).Warm relay.host :=
          {
            loaded := finds.loaded
            known := finds.known
            reads := by
              intro number call found reads
              obtain ⟨answer, ended⟩ := finds.reads call (List.mem_of_getElem? found) reads
              rw [ended]
              trivial
          }
        exact warm.moves consistent (moves_move _ _)
    }
  rw [afterRegistration, after_append, after_cons]
  refine after_induct begun fun move member _ _ held moves => held.moves ?_ moves
  rintro request rfl
  exact lone.alone request member

/-- Nothing about a relay is stale if its registration found the cache loaded. -/
theorem not_stale (lone : LoneRegistration memory relay before during)
    (filed : memory.relays.FiledBy (·.host)) (finds : FindsLoaded memory relay.host before)
    : ¬ (afterRegistration memory relay before during).Stale relay := by
  obtain ⟨answer, returned⟩ := lone.returned
  have registering := lone.registering filed
  rintro ⟨stale, named, different, held | ⟨call, member, caches⟩⟩
  · obtain ⟨rest, found, stage⟩ := registering.stage
    cases Option.some.inj (found.symm.trans returned)
    cases stage with
    | returned _ _ cached =>
        obtain ⟨other, same, _, kept⟩ := cached
        obtain rfl := kept finds
        exact different (Option.some.inj (held.symm.trans same))
  · obtain ⟨reader, asked⟩ := List.mem_iff_getElem?.mp member
    have reads := registering.readsRelays returned asked caches named
    have relies := (registering.warm finds).reads reader call asked reads
    exact caches.allowed relies (fun _ => trivial) named

end LoneRegistration

/-- After a registration that no other one for the host overlaps, the relay is given out for the
host from then on exactly if nothing about it is stale, that is, if neither the cache has another
relay for the host nor a read that was told of one before is still to cache it. So it is if the
registration found the cache loaded with a relay for the host, and no read under way.
-/
theorem registers_iff_not_stale (filed : memory.relays.FiledBy (·.host))
    (lone : LoneRegistration memory relay before during)
    : ((afterRegistration memory relay before during).Registers relay
        ↔ ¬ (afterRegistration memory relay before during).Stale relay)
      ∧ (FindsLoaded memory relay.host before
        → (afterRegistration memory relay before during).Registers relay) := by
  obtain ⟨answer, returned⟩ := lone.returned
  have registering := lone.registering filed
  have registers := fun fresh => (registering.registered returned fresh).registers
  exact ⟨⟨registering.not_stale returned, registers⟩,
    fun finds => registers (lone.not_stale filed finds)⟩

/-- The relay of a host is asked for, and the call of the given number makes some accesses. -/
def asking (host : String) (number accesses : Nat) : List Move :=
  .begins (.getRelay host) :: List.replicate accesses (.accesses number)

/-- The first read of a relay ends with a loaded cache. -/
theorem after_asking (relay : Relay)
    : (quiet (Memory.empty.putRelay relay)).after (asking relay.host 0 5)
      = {
          shared :=
            {
              cache := { Cache.empty.takeRelay relay with loaded := true }
              backend :=
                { Backend.ofMemory (Memory.empty.putRelay relay) with calls := [.listRelays] }
            }
          calls := [{ request := .getRelay relay.host, rest := .done (.ok (some relay)) }]
        } := by
  simp [asking, List.replicate, quiet, Traffic.move, begin, StoreRequest.operation?, access,
    Call.access, Program.advance, Cache.getRelay, Cache.afterLoading, Cache.cacheRelays,
    Cached.perform, Cache.empty, Cache.takeRelay, Backend.read, Backend.call, Backend.fault?,
    Backend.ofMemory, Memory.putRelay, Memory.empty, Table.values, Table.get?, Table.insert,
    Table.empty, Named.place, Named.find?]
  rfl

/-- The cache loses the relay of a registration that falls between the two ends of a load. -/
theorem afterRegistration_overtaken (first second : Relay)
    : let before := asking first.host 0 2
      let during : List Move := [.accesses 1, .accesses 1, .accesses 0, .accesses 0]
      let later := afterRegistration (Memory.empty.putRelay first) second before during
      ((quiet (Memory.empty.putRelay first)).after before).calls.map (·.request)
        = [.getRelay first.host]
      ∧ later.calls[1]? = some { request := .putRelay second, rest := .done (.ok ()) }
      ∧ later.shared.cache = { (Cache.empty.takeRelay second).takeRelay first with loaded := true }
      := by
  simp [afterRegistration, asking, List.replicate, quiet, Traffic.move, begin,
    StoreRequest.operation?, access, Call.access, Program.advance, Cache.getRelay, Cache.putRelay,
    Cache.afterLoading, Cache.cacheRelays, Cached.perform, Cache.empty, Cache.takeRelay,
    Backend.read, Backend.write, Backend.call, Backend.fault?, Backend.ofMemory, Memory.putRelay,
    Memory.empty, Table.values, Table.insert, Table.empty, Named.place]
  rfl

/-- A read that returned before the registration began leaves nothing behind. -/
theorem registers_after_read
    : let first := relayFor "hub" "first"
      let second := relayFor "hub" "second"
      let memory := Memory.empty.putRelay first
      let before := asking first.host 0 5
      let during : List Move := [.accesses 1, .accesses 1]
      memory.relays.FiledBy (·.host)
      ∧ LoneRegistration memory second before during
      ∧ FindsLoaded memory second.host before
      ∧ (afterRegistration memory second before during).Registers second := by
  intro first second memory before during
  have filed : memory.relays.FiledBy (·.host) := (Memory.Filed.empty.putRelay first).relays
  have read := after_asking first
  have returned
      : (afterRegistration memory second before during).calls[1]?
        = some { request := .putRelay second, rest := .done (.ok ()) } := by
    rw [afterRegistration, after_append, read]
    rfl
  have lone : LoneRegistration memory second before during :=
    {
      earlier := by simp [memory, before, read, Call.Returned]
      alone := by simp [during]
      returned := by
        simp only [memory, before, read]
        exact ⟨.ok (), returned⟩
    }
  have finds : FindsLoaded memory second.host before :=
    {
      loaded := by rw [read]
      known := by
        have held := Table.get?_insert_same Table.empty first.host first
        rw [read]
        exact Option.ne_none_iff_exists'.mpr ⟨first, held⟩
      reads := by simp [memory, before, read, Call.Returned]
    }
  exact ⟨filed, lone, finds, (registers_iff_not_stale filed lone).2 finds⟩

/-- A read that was told of the relay before a registration, and caches it after the registration
has cached its own, outlasts it: the registered relay is not given out.
-/
theorem read_outlasts_registration
    : ¬ ∀ memory relay before during,
        memory.relays.FiledBy (·.host)
        → LoneRegistration memory relay before during
        → (afterRegistration memory relay before during).Registers relay := by
  intro registers
  let first := relayFor "hub" "first"
  let second := relayFor "hub" "second"
  obtain ⟨asked, returned, cache⟩ := afterRegistration_overtaken first second
  have one : ((quiet (Memory.empty.putRelay first)).after (asking first.host 0 2)).calls.length = 1 :=
    (List.length_map _).symm.trans (congrArg List.length asked)
  have filed : (Memory.empty.putRelay first).relays.FiledBy (·.host) :=
    (Memory.Filed.empty.putRelay first).relays
  have lone : LoneRegistration (Memory.empty.putRelay first) second (asking first.host 0 2)
      [.accesses 1, .accesses 1, .accesses 0, .accesses 0] :=
    {
      earlier := by
        intro call member puts
        have request := List.mem_map_of_mem (f := (·.request)) member
        rw [asked, List.mem_singleton] at request
        obtain ⟨relay, same, _⟩ := puts
        cases request.symm.trans same
      alone := by simp
      returned := by
        rw [one]
        exact ⟨.ok (), returned⟩
    }
  have held := Table.get?_insert_same (Table.empty.insert second.host second) first.host first
  have same : first = second := by
    refine (registers _ _ _ _ filed lone).cached ?_ ?_
    · rw [cache]
    · rw [cache]
      exact held
  have users := congrArg Relay.user same
  simp [first, second, relayFor] at users

end Traffic

end FleetOps
