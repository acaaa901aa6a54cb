import FleetOps.Proofs.Store.Memory
import FleetOps.Proofs.Store.Visits

/-! The relays that a store with a cache gives out, when others may put relays behind it. They
are those of a view of the contents that is taken once, when relays are first wanted, and that
follows what is put through the cache.
-/

namespace FleetOps

/-- The relays of the contents, and the view of them that was taken, if it was. -/
structure RelayView where
  contents : Table Relay
  taken : Option (Table Relay)

namespace RelayView

/-- Nothing has been wanted of the contents yet. -/
def untaken (contents : Table Relay) : RelayView :=
  { contents := contents, taken := none }

/-- The view: all of the contents, as long as none was taken. -/
def table (view : RelayView) : Table Relay := view.taken.getD view.contents

/-- The relay of a host. One that is not in the view may be in the contents. -/
def found (view : RelayView) (host : String) : Option Relay :=
  (view.table.get? host).or (view.contents.get? host)

/-- The view, with the relay of a host added if it lacks it. -/
def adding (view : RelayView) (host : String) : Table Relay :=
  match view.table.get? host, view.contents.get? host with
  | none, some relay => view.table.insert host relay
  | _, _ => view.table

/-- What a visit does to the view. -/
def step (view : RelayView) : Visit → RelayView
  | .through .listRelays => { view with taken := some view.table }
  | .through (.getRelay host) => { view with taken := some (view.adding host) }
  | .through (.putRelay relay) =>
      {
        contents := view.contents.insert relay.host relay
        taken := view.taken.map (·.insert relay.host relay)
      }
  | .behind (.putRelay relay) =>
      { view with contents := view.contents.insert relay.host relay }
  | _ => view

/-- The view after some visits. -/
def after (view : RelayView) (visits : List Visit) : RelayView := visits.foldl step view

@[simp] theorem after_concat (view : RelayView) (visits : List Visit) (visit : Visit)
    : view.after (visits ++ [visit]) = (view.after visits).step visit := by
  simp [after]

end RelayView

-----------------------------------------------------------------------------------------
-- The cache shows the view
-----------------------------------------------------------------------------------------

/-- The cache is loaded once the view is taken, and holds the view then. Before that it may hold
what was put through it, all of which the contents have as well.
-/
structure Cache.Shows (cache : Cache) (memory : Memory) (view : RelayView) : Prop where
  contents : memory.relays = view.contents
  filed : view.contents.FiledBy (·.host)
  loaded : cache.loaded = view.taken.isSome
  relays : ∀ table, view.taken = some table → cache.relays = table
  early
    : view.taken = none
      → ∀ host, cache.relays.get? host ≠ none → view.contents.get? host ≠ none

namespace Cache.Shows

variable {cache : Cache} {memory : Memory} {view : RelayView}

/-- A loaded cache holds the view, since what it held before is hidden by the contents. -/
theorem load_relays (shows : cache.Shows memory view)
    : (cache.load memory).relays = view.table := by
  cases taken : view.taken with
  | some table =>
      have loaded := shows.loaded
      rw [taken, Option.isSome_some] at loaded
      simp [Cache.load, RelayView.table, loaded, taken, shows.relays table taken]
  | none =>
      have loaded := shows.loaded
      rw [taken, Option.isSome_none] at loaded
      simp only [Cache.load, loaded, Bool.false_eq_true, if_false, RelayView.table, taken,
        Option.getD_none, shows.contents]
      refine Table.ext fun host => ?_
      rw [shows.filed.get?_insertAll]
      cases found : view.contents.get? host with
      | some relay => rfl
      | none =>
          have missing : cache.relays.get? host = none := by
            by_contra present
            exact shows.early taken host present found
          simp [missing]

/-- Loading loads. -/
theorem load_loaded (cache : Cache) (memory : Memory) : (cache.load memory).loaded = true := by
  simp only [Cache.load]
  split
  next loaded => exact loaded
  next => rfl

/-- Loading takes the view. -/
theorem load (shows : cache.Shows memory view)
    : (cache.load memory).Shows memory { view with taken := some view.table } where
  contents := shows.contents
  filed := shows.filed
  loaded := load_loaded cache memory
  relays := by
    rintro table ⟨⟩
    exact shows.load_relays
  early := by simp

/-- A relay that is fetched is filed under the host that was asked for. -/
theorem fetch (shows : cache.Shows memory view) (host : String)
    : ((cache.load memory).fetch memory host).Shows memory
        { view with taken := some (view.adding host) } where
  contents := shows.contents
  filed := shows.filed
  loaded := by
    simp only [Cache.fetch]
    split <;> exact load_loaded cache memory
  relays := by
    rintro table ⟨⟩
    simp only [Cache.fetch, RelayView.adding, shows.load_relays, shows.contents]
    cases view.table.get? host with
    | some relay => exact shows.load_relays
    | none =>
        cases found : view.contents.get? host with
        | none => exact shows.load_relays
        | some relay =>
            have named := shows.filed host relay found
            simp only [Cache.takeRelay, shows.load_relays, named]
  early := by simp

/-- A relay that is put through the cache is shown. -/
theorem putRelay (shows : cache.Shows memory view) (relay : Relay)
    : (cache.takeRelay relay).Shows (memory.putRelay relay)
        {
          contents := view.contents.insert relay.host relay
          taken := view.taken.map (·.insert relay.host relay)
        } where
  contents := by simp [Memory.putRelay, shows.contents]
  filed := shows.filed.insert relay
  loaded := by simpa [Cache.takeRelay] using shows.loaded
  relays := by
    intro table taken
    obtain ⟨before, already, rfl⟩ := Option.map_eq_some_iff.mp taken
    simp [Cache.takeRelay, shows.relays before already]
  early := by
    intro untaken host
    have early := shows.early (Option.map_eq_none_iff.mp untaken) host
    simp only [Cache.takeRelay, Table.get?_insert]
    split
    · simp
    · exact early

/-- A relay that is put behind the cache changes the contents alone. -/
theorem putRelayBehind (shows : cache.Shows memory view) (relay : Relay)
    : cache.Shows (memory.putRelay relay)
        { view with contents := view.contents.insert relay.host relay } where
  contents := by simp [Memory.putRelay, shows.contents]
  filed := shows.filed.insert relay
  loaded := shows.loaded
  relays := shows.relays
  early := by
    intro untaken host present
    have early := shows.early untaken host present
    simp only [Table.get?_insert]
    split
    · simp
    · exact early

/-- Requests that have nothing to do with relays leave the view as it is. -/
theorem of_relays_eq {other : Cache} {later : Memory} (shows : cache.Shows memory view)
    (contents : later.relays = memory.relays) (relays : other.relays = cache.relays)
    (loaded : other.loaded = cache.loaded)
    : other.Shows later view where
  contents := contents.trans shows.contents
  filed := shows.filed
  loaded := loaded.trans shows.loaded
  relays := fun table taken => relays.trans (shows.relays table taken)
  early := by
    rw [relays]
    exact shows.early

/-- A check of a key changes nothing about the relays. -/
theorem check_relays (cache : Cache) (memory : Memory) (key : String) (admin : Bool)
    : (cache.check memory key admin).relays = cache.relays
      ∧ (cache.check memory key admin).loaded = cache.loaded := by
  simp only [Cache.check]
  split
  · exact ⟨rfl, rfl⟩
  · split
    · cases admin <;> exact ⟨rfl, rfl⟩
    · exact ⟨rfl, rfl⟩

/-- The cache shows the view after every visit, by cases on the visits. -/
theorem visit (shows : cache.Shows memory view) (visit : Visit)
    : (visit.cacheAfter cache memory).Shows (visit.request.onMemory memory).2
        (view.step visit) := by
  cases visit with
  | through request =>
      cases request with
      | listRelays => exact shows.load
      | getRelay host => exact shows.fetch host
      | putRelay relay => exact shows.putRelay relay
      | validateKey key admin =>
          obtain ⟨relays, loaded⟩ := check_relays cache memory key admin
          exact shows.of_relays_eq rfl relays loaded
      | _ => exact shows.of_relays_eq rfl rfl rfl
  | behind request =>
      cases request with
      | putRelay relay => exact shows.putRelayBehind relay
      | _ => exact shows.of_relays_eq rfl rfl rfl

end Cache.Shows

/-- The relays that are listed are those of the view. -/
theorem Front.Holds.listRelays {front : Front} {cache : Cache} {memory : Memory}
    {view : RelayView} (holds : front.Holds cache memory) (shows : cache.Shows memory view)
    : (Front.listRelays front).1 = .ok view.table.values := by
  have answer : (Front.listRelays front).1 = .ok (cache.load memory).relays.values :=
    (holds.perform .listRelays).1
  rw [answer, shows.load_relays]

/-- The relay of a host is the one that the view finds. -/
theorem Front.Holds.getRelay {front : Front} {cache : Cache} {memory : Memory}
    {view : RelayView} (holds : front.Holds cache memory) (shows : cache.Shows memory view)
    (host : String)
    : (Front.getRelay host front).1 = .ok (view.found host) := by
  have answer : (Front.getRelay host front).1
      = .ok (((cache.load memory).relays.get? host).or (memory.relays.get? host)) :=
    (holds.perform (.getRelay host)).1
  rw [answer, shows.load_relays, shows.contents, RelayView.found]

/-- The cache shows the view after every run, by induction over the visits. -/
theorem freshlyCached_shows {memory : Memory} (filed : memory.relays.FiledBy (·.host))
    (before : List Visit)
    : ∃ cache contents,
        ((Front.freshlyCached memory).after before).Holds cache contents
        ∧ cache.Shows contents ((RelayView.untaken memory.relays).after before) := by
  refine Front.freshlyCached_induct
    (motive := fun before cache contents =>
      cache.Shows contents ((RelayView.untaken memory.relays).after before)) ?_ ?_ before
  · exact {
      contents := rfl
      filed := filed
      loaded := rfl
      relays := by simp [RelayView.untaken, RelayView.after]
      early := by simp [Cache.empty]
    }
  · intro before visit cache contents _ shows
    rw [RelayView.after_concat]
    exact shows.visit visit

-----------------------------------------------------------------------------------------
-- What the view keeps
-----------------------------------------------------------------------------------------

/-- The visit puts a relay of a host through the cache. -/
def Visit.PutsRelay (host : String) (visit : Visit) : Prop :=
  ∃ relay, visit = .through (.putRelay relay) ∧ relay.host = host

namespace RelayView

variable {view : RelayView} {host : String} {relay : Relay} {visit : Visit}

/-- The view was taken with a relay in it. -/
def Pins (view : RelayView) (host : String) (relay : Relay) : Prop :=
  ∃ table, view.taken = some table ∧ table.get? host = some relay

/-- What the view pins is in it. -/
theorem Pins.table (pins : view.Pins host relay) : view.table.get? host = some relay := by
  obtain ⟨table, taken, held⟩ := pins
  rw [RelayView.table, taken]
  exact held

/-- What the view pins is found. -/
theorem Pins.found (pins : view.Pins host relay) : view.found host = some relay := by
  rw [RelayView.found, pins.table, Option.some_or]

/-- A relay of the view that is added to stays what it is. -/
theorem adding_of_table (wanted : String) (held : view.table.get? host = some relay)
    : (view.adding wanted).get? host = some relay := by
  simp only [adding]
  split
  next other missing _ =>
    have different : host ≠ wanted := by
      rintro rfl
      rw [held] at missing
      cases missing
    rw [Table.get?_insert_other _ _ different]
    exact held
  next => exact held

/-- A relay that was found for a host is in the view once it was added. -/
theorem adding_of_found (found : view.found host = some relay)
    : (view.adding host).get? host = some relay := by
  simp only [RelayView.found] at found
  simp only [adding]
  cases held : view.table.get? host with
  | some other =>
      rw [held, Option.some_or] at found
      exact held.trans found
  | none =>
      rw [held, Option.none_or] at found
      rw [found]
      exact Table.get?_insert_same ..

/-- Only a put through the cache changes what the view holds of a host, by cases on the visits.
-/
theorem Pins.step (pins : view.Pins host relay) (kept : ¬ visit.PutsRelay host)
    : (view.step visit).Pins host relay := by
  obtain ⟨table, taken, held⟩ := pins
  have shown : view.table.get? host = some relay := Pins.table ⟨table, taken, held⟩
  cases visit with
  | through request =>
      cases request with
      | listRelays => exact ⟨_, rfl, shown⟩
      | getRelay wanted => exact ⟨_, rfl, adding_of_table wanted shown⟩
      | putRelay other =>
          have different : host ≠ other.host := fun same => kept ⟨other, rfl, same.symm⟩
          refine ⟨table.insert other.host other, by simp [RelayView.step, taken], ?_⟩
          rw [Table.get?_insert_other _ _ different]
          exact held
      | _ => exact ⟨table, taken, held⟩
  | behind request =>
      cases request with
      | putRelay other => exact ⟨table, taken, held⟩
      | _ => exact ⟨table, taken, held⟩

/-- What the view holds after a visit it held before, or the contents have it then. -/
theorem table_step (held : (view.step visit).table.get? host = some relay)
    : view.table.get? host = some relay
      ∨ (view.step visit).contents.get? host = some relay := by
  cases visit with
  | through request =>
      cases request with
      | getRelay wanted =>
          simp only [step, table, Option.getD_some, adding] at held ⊢
          split at held
          next other missing found =>
            rw [Table.get?_insert] at held
            split at held
            next same => exact .inr (same ▸ found.trans held)
            next => exact .inl held
          next => exact .inl held
      | putRelay other =>
          cases taken : view.taken with
          | none => exact .inr (by simpa [step, table, taken] using held)
          | some shown =>
              simp only [step, table, taken, Option.map_some, Option.getD_some,
                Table.get?_insert] at held ⊢
              split at held
              next same => exact .inr (by simpa [same] using held)
              next => exact .inl held
      | _ => exact .inl held
  | behind request =>
      cases request with
      | putRelay other =>
          cases taken : view.taken with
          | none => exact .inr (by simpa [step, table, taken] using held)
          | some shown => exact .inl (by simpa [step, table, taken] using held)
      | _ => exact .inl held

end RelayView

-----------------------------------------------------------------------------------------
-- What is returned of a host
-----------------------------------------------------------------------------------------

/-- The visit returns a relay for a host, alone or in a list. -/
def Visit.Returns (host : String) (relay : Relay) (front : Front) : Visit → Prop
  | .through (.getRelay wanted) =>
      wanted = host ∧ (Front.getRelay host front).1 = .ok (some relay)
  | .through .listRelays =>
      relay.host = host ∧ ∃ relays, (Front.listRelays front).1 = .ok relays ∧ relay ∈ relays
  | _ => False

/-- The last visit of a run returned a relay for a host. -/
def EndsReturning (memory : Memory) (host : String) (relay : Relay) (run : List Visit) : Prop :=
  ∃ earlier visit,
    run = earlier ++ [visit]
    ∧ visit.Returns host relay ((Front.freshlyCached memory).after earlier)

/-- The contents have a relay for a host at the end of a run. -/
def EndsHolding (memory : Memory) (host : String) (relay : Relay) (run : List Visit) : Prop :=
  ((Front.freshlyCached memory).after run).memory.relays.get? host = some relay

variable {memory : Memory}

/-- The contents of a run are those of its view. -/
theorem endsHolding_iff (filed : memory.relays.FiledBy (·.host)) {host : String} {relay : Relay}
    {run : List Visit}
    : EndsHolding memory host relay run
      ↔ ((RelayView.untaken memory.relays).after run).contents.get? host = some relay := by
  obtain ⟨cache, contents, holds, shows⟩ := freshlyCached_shows filed run
  rw [EndsHolding, holds.memory_eq, shows.contents]

/-- Whatever is in the view the contents had at some time, by induction over the run. -/
theorem table_held (filed : memory.relays.FiledBy (·.host)) (before : List Visit)
    : ∀ host relay,
        ((RelayView.untaken memory.relays).after before).table.get? host = some relay
        → Since (EndsHolding memory host relay) (fun _ => False) before := by
  induction before using List.reverseRecOn with
  | nil =>
      intro host relay held
      exact Since.now ((endsHolding_iff filed).mpr held)
  | append_singleton before visit ih =>
      intro host relay held
      rw [RelayView.after_concat] at held
      rcases RelayView.table_step held with earlier | now
      · exact Since.concat_iff.mpr (.inr ⟨ih host relay earlier, not_false⟩)
      · refine Since.now ((endsHolding_iff filed).mpr ?_)
        rw [RelayView.after_concat]
        exact now

/-- The view is filed under the hosts of its relays. -/
theorem table_filed (filed : memory.relays.FiledBy (·.host)) (before : List Visit)
    : ((RelayView.untaken memory.relays).after before).table.FiledBy (·.host) := by
  intro host relay held
  obtain ⟨earlier, _, _, holding, _⟩ := table_held filed before host relay held
  obtain ⟨_, _, _, shows⟩ := freshlyCached_shows filed earlier
  exact shows.filed host relay ((endsHolding_iff filed).mp holding)

/-- What a visit returns is found in the view, and is in the view from then on. -/
theorem Visit.Returns.found {host : String} {relay : Relay} {before : List Visit} {visit : Visit}
    (returns : visit.Returns host relay ((Front.freshlyCached memory).after before))
    (filed : memory.relays.FiledBy (·.host))
    : ((RelayView.untaken memory.relays).after before).found host = some relay
      ∧ (((RelayView.untaken memory.relays).after before).step visit).Pins host relay := by
  obtain ⟨cache, contents, holds, shows⟩ := freshlyCached_shows filed before
  cases visit with
  | behind request => exact returns.elim
  | through request =>
      cases request with
      | getRelay wanted =>
          obtain ⟨rfl, answer⟩ := returns
          have found := Except.ok.inj ((holds.getRelay shows wanted).symm.trans answer)
          exact ⟨found, _, rfl, RelayView.adding_of_found found⟩
      | listRelays =>
          obtain ⟨rfl, relays, answer, member⟩ := returns
          have listed := Except.ok.inj ((holds.listRelays shows).symm.trans answer)
          subst listed
          have held := (table_filed filed before).mem_values.mp member
          have pins : (((RelayView.untaken memory.relays).after before).step
              (.through .listRelays)).Pins relay.host relay := ⟨_, rfl, held⟩
          exact ⟨by rw [RelayView.found, held, Option.some_or], pins⟩
      | _ => exact returns.elim

/-- A relay that was returned is in the view until one of its host is put through the cache. -/
theorem pins_of_returned (filed : memory.relays.FiledBy (·.host)) {host : String} {relay : Relay}
    {before : List Visit}
    (returned : Since (EndsReturning memory host relay) (·.PutsRelay host) before)
    : ((RelayView.untaken memory.relays).after before).Pins host relay := by
  induction before using List.reverseRecOn with
  | nil =>
      obtain ⟨earlier, visit, split, _⟩ := Since.nil_iff.mp returned
      simp at split
  | append_singleton before visit ih =>
      rw [RelayView.after_concat]
      rcases Since.concat_iff.mp returned with ⟨earlier, last, split, returns⟩ | ⟨since, kept⟩
      · obtain ⟨rfl, same⟩ := List.append_inj' split rfl
        cases same
        exact (returns.found filed).2
      · exact (ih since).step kept

/-- The relays that a store with a cache gives out are those of the view that follows the run.
So a relay once returned for a host is the one that is returned for it until one is put through
the cache, every relay returned was at some time in the contents under its host, and a relay is
found for every host for which the contents have one.
-/
theorem relays_follow_view (filed : memory.relays.FiledBy (·.host)) (before : List Visit)
    : let front := (Front.freshlyCached memory).after before
      let view := (RelayView.untaken memory.relays).after before
      (Front.listRelays front).1 = .ok view.table.values
      ∧ (∀ host, (Front.getRelay host front).1 = .ok (view.found host))
      ∧ front.memory.relays = view.contents
      ∧ (∀ host relay,
          Since (EndsReturning memory host relay) (·.PutsRelay host) before
          → (Visit.through (.getRelay host)).Returns host relay front
            ∧ (Visit.through .listRelays).Returns host relay front
            ∧ ∀ (visit : Visit) other, visit.Returns host other front → other = relay)
      ∧ (∀ (visit : Visit) host relay,
          visit.Returns host relay front
          → Since (EndsHolding memory host relay) (fun _ => False) before)
      ∧ ∀ host,
          front.memory.relays.get? host ≠ none
          → ∃ relay, (Visit.through (.getRelay host)).Returns host relay front := by
  intro front view
  obtain ⟨cache, contents, holds, shows⟩ := freshlyCached_shows filed before
  have lists := holds.listRelays shows
  have finds := holds.getRelay shows
  have backend : front.memory.relays = view.contents := by
    rw [holds.memory_eq, shows.contents]
  refine ⟨lists, finds, backend, ?_, ?_, ?_⟩
  · intro host relay returned
    have pins := pins_of_returned filed returned
    have named : relay.host = host := table_filed filed before host relay pins.table
    have listed : relay ∈ view.table.values := Table.mem_values.mpr ⟨host, pins.table⟩
    refine ⟨⟨rfl, ?_⟩, ⟨named, _, lists, listed⟩, fun visit other returns => ?_⟩
    · rw [finds, pins.found]
    · exact Option.some.inj ((returns.found filed).1.symm.trans pins.found)
  · intro visit host relay returns
    have found := (returns.found filed).1
    rw [RelayView.found, Option.or_eq_some_iff] at found
    rcases found with held | ⟨_, now⟩
    · exact table_held filed before host relay held
    · exact Since.now ((endsHolding_iff filed).mpr now)
  · intro host present
    obtain ⟨relay, held⟩ := Option.ne_none_iff_exists'.mp present
    rw [backend] at held
    cases found : view.found host with
    | some other => exact ⟨other, rfl, (finds host).trans (congrArg _ found)⟩
    | none =>
        rw [RelayView.found, Option.or_eq_none_iff, held] at found
        cases found.2

/-- The relay with a host and a user, and nothing else of note. -/
def relayFor (host user : String) : Relay :=
  { host := host, port := 22, user := user, key := "", password := "" }

/-- A relay that was listed outlasts one that is put behind the cache, and gives way to one that
is put through it.
-/
theorem listed_outlasts_put_behind
    : let front := Front.freshlyCached (Memory.empty.putRelay (relayFor "hub" "first"))
      let behind := [Visit.through .listRelays, .behind (.putRelay (relayFor "hub" "second"))]
      let through := behind ++ [.through (.putRelay (relayFor "hub" "third"))]
      (Front.getRelay "hub" (front.after behind)).1 = .ok (some (relayFor "hub" "first"))
      ∧ (Front.getRelay "hub" (front.after through)).1
        = .ok (some (relayFor "hub" "third")) := by
  have filed : (Memory.empty.putRelay (relayFor "hub" "first")).relays.FiledBy (·.host) :=
    (Memory.Filed.empty.putRelay _).relays
  refine ⟨((relays_follow_view filed _).2.1 "hub").trans ?_,
    ((relays_follow_view filed _).2.1 "hub").trans ?_⟩
  · exact congrArg Except.ok (by decide +kernel)
  · exact congrArg Except.ok (by decide +kernel)

end FleetOps
