import FleetOps.Proofs.Store.Memory
import FleetOps.Proofs.Store.Visits

/-! What a store without a cache holds, told from the requests that it has had since it was empty.
An entry is found exactly if its put still stands, and a history is all the puts of its node.
-/

namespace FleetOps

-----------------------------------------------------------------------------------------
-- What requests change and ask about
-----------------------------------------------------------------------------------------

/-- What an entry of the store is about. -/
inductive Subject where
  | key (key : String)
  | relay (host : String)
  | node (id : String)
  | session (id : String)

namespace StoreRequest

/-- The subject of the entry that a request puts or drops. -/
def changes? : StoreRequest → Option Subject
  | putKey apiKey => some (.key apiKey.key)
  | putRelay relay => some (.relay relay.host)
  | putReport report => some (.node report.id)
  | deleteReport id => some (.node id)
  | putSession session => some (.session session.id)
  | deleteSession id => some (.session id)
  | _ => none

/-- The subject that a request asks about, if it asks about one alone. -/
def asksAbout? : StoreRequest → Option Subject
  | validateKey key _ => some (.key key)
  | getRelay host => some (.relay host)
  | getReport id => some (.node id)
  | listHistory id => some (.node id)
  | getSession id => some (.session id)
  | _ => none

/-- The put was made in a run, and since then nothing was put or dropped of its subject. -/
def Stands (put : StoreRequest) (run : List StoreRequest) : Prop :=
  Since (fun earlier => earlier.getLast? = some put)
    (fun request => request.changes? = put.changes?) run

/-- All reports of a node that were put in a run, the first one first. -/
def reportsPut (id : String) (run : List StoreRequest) : List Report :=
  run.filterMap fun
    | putReport report => if report.id = id then some report else none
    | _ => none

section

variable {put request : StoreRequest} {run : List StoreRequest} {id : String}

/-- Nothing stands after no requests. -/
theorem not_stands_nil : ¬ put.Stands [] := by
  simp [Stands, Since.nil_iff]

/-- What was put stands if it came last, or if it stood and the last request is about another entry.
-/
theorem stands_concat
    : put.Stands (run ++ [request])
      ↔ request = put ∨ put.Stands run ∧ request.changes? ≠ put.changes? := by
  simp [Stands, Since.concat_iff]

/-- A report that is put is the last of its node. -/
theorem reportsPut_putReport {report : Report}
    : reportsPut id (run ++ [putReport report])
      = reportsPut id run ++ if report.id = id then [report] else [] := by
  by_cases same : report.id = id <;> simp [reportsPut, same]

/-- A request that puts no report adds none. -/
theorem reportsPut_unput (unput : ∀ report, request ≠ putReport report)
    : reportsPut id (run ++ [request]) = reportsPut id run := by
  cases request with
  | putReport report => exact absurd rfl (unput report)
  | _ => simp [reportsPut]

/-- A request about anything but the node adds none of its reports. -/
theorem reportsPut_other (other : request.changes? ≠ some (.node id))
    : reportsPut id (run ++ [request]) = reportsPut id run := by
  cases request with
  | putReport report =>
      have different : report.id ≠ id := fun same => other (same ▸ rfl)
      rw [reportsPut_putReport, if_neg different, List.append_nil]
  | _ => exact reportsPut_unput nofun

/-- A history ends with the report whose put stands, by induction over the run. -/
theorem Stands.reportsPut_eq {report : Report} (stands : (putReport report).Stands run)
    : ∃ earlier, reportsPut report.id run = earlier ++ [report] := by
  induction run using List.reverseRecOn with
  | nil => exact absurd stands not_stands_nil
  | append_singleton run request ih =>
      rcases stands_concat.mp stands with rfl | ⟨before, different⟩
      · exact ⟨_, by rw [reportsPut_putReport, if_pos rfl]⟩
      · rw [reportsPut_other different]
        exact ih before

end

end StoreRequest

-----------------------------------------------------------------------------------------
-- Tables of the puts that stand
-----------------------------------------------------------------------------------------

namespace Table

variable {α : Type} {nameOf : α → String} {put : α → StoreRequest} {table after : Table α}
  {run : List StoreRequest} {request : StoreRequest}

/-- The table has exactly the entries whose puts stand, each under its own name. -/
def Recounts (nameOf : α → String) (put : α → StoreRequest) (table : Table α)
    (run : List StoreRequest)
    : Prop :=
  ∀ name value, table.get? name = some value ↔ nameOf value = name ∧ (put value).Stands run

namespace Recounts

/-- An empty table recounts that nothing was put. -/
theorem empty : (Table.empty : Table α).Recounts nameOf put [] := by
  intro name value
  simp [StoreRequest.not_stands_nil]

/-- A table that recounts a run is filed by its names. -/
theorem filed (recounts : table.Recounts nameOf put run) : table.FiledBy nameOf :=
  fun name value found => ((recounts name value).mp found).1

/-- A value is in the table exactly if what puts it stands. -/
theorem mem_values (recounts : table.Recounts nameOf put run) {value : α}
    : value ∈ table.values ↔ (put value).Stands run := by
  rw [recounts.filed.mem_values, recounts]
  simp

/-- A request about something else leaves the table as it is to be. -/
theorem kept (recounts : table.Recounts nameOf put run)
    (other : ∀ value, request.changes? ≠ (put value).changes?)
    : table.Recounts nameOf put (run ++ [request]) := by
  intro name value
  have unlike : request ≠ put value := fun same => other value (same ▸ rfl)
  rw [recounts, StoreRequest.stands_concat]
  simp [unlike, other value]

/-- A put replaces what is filed under its name. -/
theorem insert (recounts : table.Recounts nameOf put run) (value : α)
    (injective : put.Injective)
    (named : ∀ other, (put value).changes? = (put other).changes? ↔ nameOf other = nameOf value)
    : (table.insert (nameOf value) value).Recounts nameOf put (run ++ [put value]) := by
  intro name other
  rw [get?_insert, StoreRequest.stands_concat, injective.eq_iff, ne_eq, named]
  split
  next same =>
    subst same
    rw [Option.some_inj]
    constructor
    · rintro rfl
      exact ⟨rfl, .inl rfl⟩
    · rintro ⟨here, rfl | ⟨_, elsewhere⟩⟩
      · rfl
      · exact absurd here elsewhere
  next different =>
    rw [recounts]
    constructor
    · rintro ⟨rfl, stands⟩
      exact ⟨rfl, .inr ⟨stands, different⟩⟩
    · rintro ⟨rfl, rfl | ⟨stands, _⟩⟩
      · exact absurd rfl different
      · exact ⟨rfl, stands⟩

/-- A request that drops a name leaves nothing under it. -/
theorem erase (recounts : table.Recounts nameOf put run) {dropped : String}
    (drops : ∀ value, request ≠ put value)
    (named : ∀ value, request.changes? = (put value).changes? ↔ nameOf value = dropped)
    : (table.erase dropped).Recounts nameOf put (run ++ [request]) := by
  intro name value
  rw [StoreRequest.stands_concat, ne_eq, named]
  by_cases same : name = dropped
  · subst same
    simp only [get?_erase_same, reduceCtorEq, drops value, false_or, false_iff]
    rintro ⟨here, _, elsewhere⟩
    exact elsewhere here
  · rw [get?_erase_other table same, recounts]
    constructor
    · rintro ⟨rfl, stands⟩
      exact ⟨rfl, .inr ⟨stands, same⟩⟩
    · rintro ⟨rfl, rfl | ⟨stands, _⟩⟩
      · exact absurd rfl (drops value)
      · exact ⟨rfl, stands⟩

end Recounts

end Table

-----------------------------------------------------------------------------------------
-- The contents after a run
-----------------------------------------------------------------------------------------

namespace Memory

variable {memory : Memory} {run : List StoreRequest}

/-- The contents have the entries whose puts stand and the histories of the run. -/
structure Recounts (memory : Memory) (run : List StoreRequest) : Prop where
  apiKeys : memory.apiKeys.Recounts (·.key) .putKey run
  relays : memory.relays.Recounts (·.host) .putRelay run
  reports : memory.reports.Recounts (·.id) .putReport run
  sessions : memory.sessions.Recounts (·.id) .putSession run
  history : ∀ id, memory.historyOf id = StoreRequest.reportsPut id run

/-- A report that is put is added to the history of its node, and to no other. -/
theorem historyOf_putReport (memory : Memory) (report : Report) (id : String)
    : (memory.putReport report).historyOf id
      = memory.historyOf id ++ if report.id = id then [report] else [] := by
  simp only [historyOf, putReport, Table.get?_insert]
  by_cases same : id = report.id
  · subst same
    simp
  · simp [same, Ne.symm same]

namespace Recounts

/-- Empty contents recount that nothing was asked. -/
theorem empty : Memory.empty.Recounts [] where
  apiKeys := .empty
  relays := .empty
  reports := .empty
  sessions := .empty
  history _ := rfl

/-- Contents that recount a run are filed. -/
theorem filed (recounts : memory.Recounts run) : memory.Filed where
  apiKeys := recounts.apiKeys.filed
  relays := recounts.relays.filed
  reports := recounts.reports.filed
  sessions := recounts.sessions.filed

/-- A key is accepted if it is not empty and the entry whose put stands suffices. -/
theorem acceptsKey_iff (recounts : memory.Recounts run) (key : String) (admin : Bool)
    : memory.acceptsKey key admin = true
      ↔ key ≠ ""
        ∧ ∃ apiKey : ApiKey,
            apiKey.key = key
            ∧ (StoreRequest.putKey apiKey).Stands run
            ∧ (admin = true → apiKey.admin = true) := by
  simp only [← and_assoc, ← recounts.apiKeys key, acceptsKey]
  cases memory.apiKeys.get? key <;> cases admin <;> simp

/-- A request that changes nothing has nothing to be recounted. -/
theorem reads (recounts : memory.Recounts run) {request : StoreRequest}
    (unchanging : request.changes? = none)
    : memory.Recounts (run ++ [request]) where
  apiKeys := recounts.apiKeys.kept fun _ same => nomatch unchanging.symm.trans same
  relays := recounts.relays.kept fun _ same => nomatch unchanging.symm.trans same
  reports := recounts.reports.kept fun _ same => nomatch unchanging.symm.trans same
  sessions := recounts.sessions.kept fun _ same => nomatch unchanging.symm.trans same
  history id :=
    (recounts.history id).trans (StoreRequest.reportsPut_other (by simp [unchanging])).symm

/-- Putting a key is recounted. -/
theorem putKey (recounts : memory.Recounts run) (apiKey : ApiKey)
    : (memory.putKey apiKey).Recounts (run ++ [.putKey apiKey]) where
  apiKeys :=
    recounts.apiKeys.insert apiKey (fun _ _ => StoreRequest.putKey.inj)
      (by simp [StoreRequest.changes?, eq_comm])
  relays := recounts.relays.kept nofun
  reports := recounts.reports.kept nofun
  sessions := recounts.sessions.kept nofun
  history id := (recounts.history id).trans (StoreRequest.reportsPut_unput (by simp)).symm

/-- Putting a relay is recounted. -/
theorem putRelay (recounts : memory.Recounts run) (relay : Relay)
    : (memory.putRelay relay).Recounts (run ++ [.putRelay relay]) where
  apiKeys := recounts.apiKeys.kept nofun
  relays :=
    recounts.relays.insert relay (fun _ _ => StoreRequest.putRelay.inj)
      (by simp [StoreRequest.changes?, eq_comm])
  reports := recounts.reports.kept nofun
  sessions := recounts.sessions.kept nofun
  history id := (recounts.history id).trans (StoreRequest.reportsPut_unput (by simp)).symm

/-- A report that is put goes to two tables at once. -/
theorem putReport (recounts : memory.Recounts run) (report : Report)
    : (memory.putReport report).Recounts (run ++ [.putReport report]) where
  apiKeys := recounts.apiKeys.kept nofun
  relays := recounts.relays.kept nofun
  reports :=
    recounts.reports.insert report (fun _ _ => StoreRequest.putReport.inj)
      (by simp [StoreRequest.changes?, eq_comm])
  sessions := recounts.sessions.kept nofun
  history id := by
    rw [StoreRequest.reportsPut_putReport, historyOf_putReport, recounts.history]

/-- A report that is dropped stays in the history. -/
theorem deleteReport (recounts : memory.Recounts run) (id : String)
    : (memory.deleteReport id).Recounts (run ++ [.deleteReport id]) where
  apiKeys := recounts.apiKeys.kept nofun
  relays := recounts.relays.kept nofun
  reports := recounts.reports.erase nofun (by simp [StoreRequest.changes?, eq_comm])
  sessions := recounts.sessions.kept nofun
  history other := (recounts.history other).trans (StoreRequest.reportsPut_unput (by simp)).symm

/-- Putting a session is recounted. -/
theorem putSession (recounts : memory.Recounts run) (session : Session)
    : (memory.putSession session).Recounts (run ++ [.putSession session]) where
  apiKeys := recounts.apiKeys.kept nofun
  relays := recounts.relays.kept nofun
  reports := recounts.reports.kept nofun
  sessions :=
    recounts.sessions.insert session (fun _ _ => StoreRequest.putSession.inj)
      (by simp [StoreRequest.changes?, eq_comm])
  history id := (recounts.history id).trans (StoreRequest.reportsPut_unput (by simp)).symm

/-- Deleting a session is recounted. -/
theorem deleteSession (recounts : memory.Recounts run) (id : String)
    : (memory.deleteSession id).Recounts (run ++ [.deleteSession id]) where
  apiKeys := recounts.apiKeys.kept nofun
  relays := recounts.relays.kept nofun
  reports := recounts.reports.kept nofun
  sessions := recounts.sessions.erase nofun (by simp [StoreRequest.changes?, eq_comm])
  history other := (recounts.history other).trans (StoreRequest.reportsPut_unput (by simp)).symm

/-- Every request is recounted, by cases on the requests. -/
theorem onMemory (recounts : memory.Recounts run) (request : StoreRequest)
    : (request.onMemory memory).2.Recounts (run ++ [request]) := by
  cases request with
  | putKey apiKey => exact recounts.putKey apiKey
  | putRelay relay => exact recounts.putRelay relay
  | putReport report => exact recounts.putReport report
  | deleteReport id => exact recounts.deleteReport id
  | putSession session => exact recounts.putSession session
  | deleteSession id => exact recounts.deleteSession id
  | _ => exact recounts.reads rfl

end Recounts

/-- The contents are the same as far as a subject goes. -/
def SameAbout (left right : Memory) : Subject → Prop
  | .key key => left.apiKeys.get? key = right.apiKeys.get? key
  | .relay host => left.relays.get? host = right.relays.get? host
  | .node id => left.reports.get? id = right.reports.get? id ∧ left.historyOf id = right.historyOf id
  | .session id => left.sessions.get? id = right.sessions.get? id

/-- Contents are the same about anything as themselves. -/
theorem SameAbout.refl (memory : Memory) (subject : Subject)
    : memory.SameAbout memory subject := by
  cases subject <;> simp [SameAbout]

/-- Contents that are the same as the same are the same. -/
theorem SameAbout.trans {left middle right : Memory} {subject : Subject}
    (first : left.SameAbout middle subject) (second : middle.SameAbout right subject)
    : left.SameAbout right subject := by
  cases subject with
  | node id => exact ⟨first.1.trans second.1, first.2.trans second.2⟩
  | _ => exact Eq.trans first second

/-- A request leaves everything as it was about subjects that it does not change, by cases on the
subjects and on the requests that change one of the kind.
-/
theorem onMemory_sameAbout {request : StoreRequest} {subject : Subject}
    (other : request.changes? ≠ some subject) (memory : Memory)
    : (request.onMemory memory).2.SameAbout memory subject := by
  cases subject with
  | key key =>
      cases request with
      | putKey apiKey => exact Table.get?_insert_other _ _ fun same => other (same ▸ rfl)
      | _ => rfl
  | relay host =>
      cases request with
      | putRelay relay => exact Table.get?_insert_other _ _ fun same => other (same ▸ rfl)
      | _ => rfl
  | node id =>
      cases request with
      | putReport report =>
          have different : id ≠ report.id := fun same => other (same ▸ rfl)
          refine ⟨Table.get?_insert_other _ _ different, ?_⟩
          exact (historyOf_putReport memory report id).trans (by simp [different.symm])
      | deleteReport dropped =>
          exact ⟨Table.get?_erase_other _ fun same => other (same ▸ rfl), rfl⟩
      | _ => exact ⟨rfl, rfl⟩
  | session id =>
      cases request with
      | putSession session => exact Table.get?_insert_other _ _ fun same => other (same ▸ rfl)
      | deleteSession dropped => exact Table.get?_erase_other _ fun same => other (same ▸ rfl)
      | _ => rfl

/-- What is asked about one subject is answered alike by contents that are the same about it. -/
theorem SameAbout.answer {left right : Memory} {subject : Subject} {request : StoreRequest}
    (same : left.SameAbout right subject) (asks : request.asksAbout? = some subject)
    : (request.onMemory left).1 = (request.onMemory right).1 := by
  cases request with
  | validateKey key admin =>
      cases asks
      have found : left.apiKeys.get? key = right.apiKeys.get? key := same
      have accepts : left.acceptsKey key admin = right.acceptsKey key admin := by
        simp only [acceptsKey, found]
      exact accepts
  | getRelay | getSession =>
      cases asks
      exact same
  | getReport =>
      cases asks
      exact same.1
  | listHistory =>
      cases asks
      exact same.2
  | _ => cases asks

/-- The contents after some requests. -/
def after (memory : Memory) (requests : List StoreRequest) : Memory :=
  requests.foldl (fun memory request => (request.onMemory memory).2) memory

/-- The contents recount one run after another, by induction over the second one. -/
theorem Recounts.after {requests : List StoreRequest} (recounts : memory.Recounts run)
    : (memory.after requests).Recounts (run ++ requests) := by
  induction requests generalizing memory run with
  | nil => simpa [Memory.after] using recounts
  | cons request rest ih => simpa [Memory.after] using ih (recounts.onMemory request)

/-- Requests that do not change a subject leave everything about it as it was, by induction over
them.
-/
theorem after_sameAbout {requests : List StoreRequest} {subject : Subject}
    (others : ∀ request ∈ requests, request.changes? ≠ some subject) (memory : Memory)
    : (memory.after requests).SameAbout memory subject := by
  induction requests generalizing memory with
  | nil => exact .refl memory subject
  | cons request rest ih =>
      obtain ⟨first, later⟩ := List.forall_mem_cons.mp others
      exact (ih later _).trans (onMemory_sameAbout first memory)

end Memory

-----------------------------------------------------------------------------------------
-- What a store answers after a run
-----------------------------------------------------------------------------------------

/-- All that is put when a seed is put into a store, in order. -/
def Seed.requests (seed : Seed) : List StoreRequest :=
  seed.apiKeys.map .putKey ++ seed.relays.map .putRelay ++ seed.reports.map .putReport
    ++ seed.sessions.map .putSession

/-- Applying a seed is making its requests. -/
theorem Seed.apply_eq (seed : Seed) (memory : Memory)
    : seed.apply memory = memory.after seed.requests := by
  simp only [apply, Memory.after, requests, List.foldl_append, List.foldl_map,
    StoreRequest.onMemory]

/-- What can be done to a store: it is asked something, or a seed is put into its contents. -/
inductive Deed where
  | asks (request : StoreRequest)
  | sows (seed : Seed)

namespace Deed

/-- The requests that a deed comes down to. -/
def requests : Deed → List StoreRequest
  | asks request => [request]
  | sows seed => seed.requests

/-- The store after a deed. -/
def perform (front : Front) : Deed → Front
  | asks request => (request.perform front).2
  | sows seed =>
      front.withBackend { front.backend with memory := seed.apply front.memory }

end Deed

namespace Front

/-- The store after some deeds. -/
def afterDeeds (front : Front) (deeds : List Deed) : Front := deeds.foldl Deed.perform front

/-- A deed leaves a plain store with the contents after its requests. -/
theorem IsPlain.deed {front : Front} {memory : Memory} (plain : front.IsPlain memory)
    (deed : Deed)
    : (deed.perform front).IsPlain (memory.after deed.requests) := by
  cases deed with
  | asks request => exact (plain.perform request).2
  | sows seed =>
      obtain ⟨backend, rfl, rfl, works⟩ := plain
      exact ⟨_, rfl, seed.apply_eq backend.memory, works⟩

/-- The contents go through all requests that the deeds come down to, by induction over the deeds.
-/
theorem IsPlain.afterDeeds {front : Front} {memory : Memory} (plain : front.IsPlain memory)
    (deeds : List Deed)
    : (front.afterDeeds deeds).IsPlain (memory.after (deeds.flatMap Deed.requests)) := by
  induction deeds generalizing front memory with
  | nil => exact plain
  | cons deed rest ih =>
      simpa [Front.afterDeeds, Memory.after] using ih (plain.deed deed)

/-- The answer is the entry of this name whose put stands, or none if there is no such put. -/
def FindsStanding {α : Type} (nameOf : α → String) (put : α → StoreRequest)
    (run : List StoreRequest) (name : String) (answer : Except StoreFault (Option α))
    : Prop :=
  ∃ found,
    answer = .ok found
    ∧ ∀ entry, found = some entry ↔ nameOf entry = name ∧ (put entry).Stands run

/-- The answer is a list of all entries whose puts stand, with one entry for each name. -/
def ListsStanding {α : Type} (nameOf : α → String) (put : α → StoreRequest)
    (run : List StoreRequest) (answer : Except StoreFault (List α))
    : Prop :=
  ∃ listed,
    answer = .ok listed
    ∧ (listed.map nameOf).Nodup
    ∧ ∀ entry, entry ∈ listed ↔ (put entry).Stands run

/-- The store answers what a run of requests tells. -/
structure Recounts (front : Front) (run : List StoreRequest) : Prop where
  filed : front.memory.Filed
  history : ∀ id, (listHistory id front).1 = .ok (StoreRequest.reportsPut id run)
  report : ∀ id, FindsStanding (·.id) .putReport run id (getReport id front).1
  latest
    : ∀ id report,
        (getReport id front).1 = .ok (some report)
        → ∃ earlier, (listHistory id front).1 = .ok (earlier ++ [report])
  count
    : ∃ ids : List String,
        ids.Nodup
        ∧ (∀ id, id ∈ ids ↔ ∃ report, (getReport id front).1 = .ok (some report))
        ∧ (countReports front).1 = .ok ids.length
  accepted
    : ∀ key admin,
        ∃ accepted,
          (validateKey key admin front).1 = .ok accepted
          ∧ (accepted = true
            ↔ key ≠ ""
              ∧ ∃ apiKey : ApiKey,
                  apiKey.key = key
                  ∧ (StoreRequest.putKey apiKey).Stands run
                  ∧ (admin = true → apiKey.admin = true))
  keys : ListsStanding (·.key) .putKey run (listKeys front).1
  relay : ∀ host, FindsStanding (·.host) .putRelay run host (getRelay host front).1
  relays : ListsStanding (·.host) .putRelay run (listRelays front).1
  session : ∀ id, FindsStanding (·.id) .putSession run id (getSession id front).1

section

variable {α : Type} {nameOf : α → String} {put : α → StoreRequest} {run : List StoreRequest}
  {table : Table α}

/-- What the table has for a name is what stands of it. -/
theorem FindsStanding.of_get? {name : String} {answer : Except StoreFault (Option α)}
    (answered : answer = .ok (table.get? name)) (recounts : table.Recounts nameOf put run)
    : FindsStanding nameOf put run name answer :=
  ⟨_, answered, recounts name⟩

/-- What the table has altogether is what stands. -/
theorem ListsStanding.of_values {answer : Except StoreFault (List α)}
    (answered : answer = .ok table.values) (recounts : table.Recounts nameOf put run)
    : ListsStanding nameOf put run answer :=
  ⟨_, answered, recounts.filed.names_nodup, fun _ => recounts.mem_values⟩

end

/-- Contents that recount a run answer like it, each question by what the contents have. -/
theorem IsPlain.recounts {front : Front} {memory : Memory} {run : List StoreRequest}
    (plain : front.IsPlain memory) (recounts : memory.Recounts run)
    : front.Recounts run := by
  have history (id : String) : (listHistory id front).1 = .ok (StoreRequest.reportsPut id run) := by
    rw [← recounts.history]
    exact (plain.perform (.listHistory id)).1
  have report (id : String) : (getReport id front).1 = .ok (memory.reports.get? id) :=
    (plain.perform (.getReport id)).1
  exact {
    filed := plain.memory_eq ▸ recounts.filed
    history := history
    report := fun id => .of_get? (report id) recounts.reports
    latest := by
      intro id latest found
      rw [report, Except.ok.injEq, recounts.reports] at found
      obtain ⟨rfl, stands⟩ := found
      obtain ⟨earlier, ends⟩ := stands.reportsPut_eq
      exact ⟨earlier, (history _).trans (congrArg _ ends)⟩
    count := by
      refine ⟨memory.reports.values.map (·.id), recounts.reports.filed.names_nodup, ?_, ?_⟩
      · intro id
        simp only [report, Except.ok.injEq, List.mem_map, recounts.reports.mem_values,
          recounts.reports id, and_comm]
      · rw [List.length_map, Table.values, List.length_map]
        exact (plain.perform .countReports).1
    accepted := fun key admin =>
      ⟨_, (plain.perform (.validateKey key admin)).1, recounts.acceptsKey_iff key admin⟩
    keys := .of_values (plain.perform .listKeys).1 recounts.apiKeys
    relay := fun host => .of_get? (plain.perform (.getRelay host)).1 recounts.relays
    relays := .of_values (plain.perform .listRelays).1 recounts.relays
    session := fun id => .of_get? (plain.perform (.getSession id)).1 recounts.sessions
  }

/-- After any deeds on a store that was empty, its answers are those that the puts and drops tell
which the deeds come down to. So a history is all reports of its node that were put, and an entry
is found as it was last put, unless it was dropped since. A question about one subject is answered
as before after deeds that change other subjects alone.
-/
theorem plain_recounts_deeds (deeds : List Deed)
    : let front := (plain .empty).afterDeeds deeds
      front.Recounts (deeds.flatMap Deed.requests)
      ∧ ∀ (more : List Deed) (question : StoreRequest) (subject : Subject),
          question.asksAbout? = some subject
          → (∀ request ∈ more.flatMap Deed.requests, request.changes? ≠ some subject)
          → (question.perform (front.afterDeeds more)).1 = (question.perform front).1 := by
  intro front
  let contents := Memory.empty.after (deeds.flatMap Deed.requests)
  have plain : front.IsPlain contents := (plain_isPlain .empty).afterDeeds deeds
  refine ⟨plain.recounts Memory.Recounts.empty.after, ?_⟩
  intro more question subject asks others
  have same := (Memory.after_sameAbout others contents).answer asks
  rw [((plain.afterDeeds more).perform question).1, (plain.perform question).1, same]

end Front

end FleetOps
