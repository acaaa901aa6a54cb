import FleetOps.Proofs.Table
import FleetOps.Store.Request
import FleetOps.Store.Seed

/-! What every request leaves in order in the contents of a store: whatever they hold is filed
under its own name, from the empty store on.
-/

namespace FleetOps.Memory

/-- Filing a key decides whether it is accepted, and no other key. -/
theorem acceptsKey_putKey (memory : Memory) (apiKey : ApiKey) (key : String) (admin : Bool)
    : (memory.putKey apiKey).acceptsKey key admin
      = if key = apiKey.key then !key.isEmpty && (!admin || apiKey.admin)
        else memory.acceptsKey key admin := by
  simp only [acceptsKey, putKey, Table.get?_insert]
  by_cases same : key = apiKey.key
  · simp only [same, if_true]
    cases apiKey.key.isEmpty <;> rfl
  · simp only [same, if_false]

/-- Keys, relays, latest reports and sessions are filed under their own names. -/
structure Filed (memory : Memory) : Prop where
  apiKeys : memory.apiKeys.FiledBy (·.key)
  relays : memory.relays.FiledBy (·.host)
  reports : memory.reports.FiledBy (·.id)
  sessions : memory.sessions.FiledBy (·.id)

namespace Filed

variable {memory : Memory}

/-- Empty contents are filed. -/
theorem empty : Memory.empty.Filed where
  apiKeys := .empty
  relays := .empty
  reports := .empty
  sessions := .empty

/-- Contents stay filed when a key is put. -/
theorem putKey (filed : memory.Filed) (apiKey : ApiKey) : (memory.putKey apiKey).Filed :=
  { filed with apiKeys := filed.apiKeys.insert apiKey }

/-- Contents stay filed when a relay is put. -/
theorem putRelay (filed : memory.Filed) (relay : Relay) : (memory.putRelay relay).Filed :=
  { filed with relays := filed.relays.insert relay }

/-- Contents stay filed when a report is put. -/
theorem putReport (filed : memory.Filed) (report : Report) : (memory.putReport report).Filed :=
  { filed with reports := filed.reports.insert report }

/-- Contents stay filed when a session is put. -/
theorem putSession (filed : memory.Filed) (session : Session)
    : (memory.putSession session).Filed :=
  { filed with sessions := filed.sessions.insert session }

/-- Every request keeps the contents filed, by cases on the requests. -/
theorem onMemory (filed : memory.Filed) (request : StoreRequest)
    : (request.onMemory memory).2.Filed := by
  cases request with
  | putKey apiKey => exact filed.putKey apiKey
  | putRelay relay => exact filed.putRelay relay
  | putReport report => exact filed.putReport report
  | putSession session => exact filed.putSession session
  | deleteReport id => exact { filed with reports := filed.reports.erase id }
  | deleteSession id => exact { filed with sessions := filed.sessions.erase id }
  | _ => exact filed

/-- Entries that are put one by one keep the contents filed if each does, by induction over them.
-/
theorem foldl {α : Type} {put : Memory → α → Memory}
    (keeps : ∀ memory entry, Filed memory → Filed (put memory entry)) (filed : memory.Filed)
    (entries : List α)
    : (entries.foldl put memory).Filed := by
  induction entries generalizing memory with
  | nil => exact filed
  | cons entry rest ih => exact ih (keeps memory entry filed)

/-- Contents stay filed when a seed is applied. -/
theorem seed (filed : memory.Filed) (seed : Seed) : (seed.apply memory).Filed := by
  have keys := filed.foldl (fun _ entry held => held.putKey entry) seed.apiKeys
  have relays := keys.foldl (fun _ entry held => held.putRelay entry) seed.relays
  have reports := relays.foldl (fun _ entry held => held.putReport entry) seed.reports
  exact reports.foldl (fun _ entry held => held.putSession entry) seed.sessions

end Filed

end FleetOps.Memory
