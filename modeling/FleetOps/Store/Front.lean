import FleetOps.Store.Cache

/-! The store as the service uses it: the backend alone, or with a cache in front. An action
on it gives an answer or a fault, and the store afterwards either way.
-/

namespace FleetOps

/-- The store. -/
inductive Front where
  | direct (backend : Backend)
  | cached (state : Cached)

/-- An action on the store. -/
abbrev StoreAction (α : Type) := Front → Except StoreFault α × Front

namespace Front

/-- The backend of a store. -/
def backend : Front → Backend
  | direct backend => backend
  | cached state => state.backend

/-- The store with another backend behind it. -/
def withBackend (front : Front) (backend : Backend) : Front :=
  match front with
  | direct _ => direct backend
  | cached state => cached { state with backend := backend }

/-- The contents of the store, as the backend has them. -/
def memory (front : Front) : Memory := front.backend.memory

/-- The relays that the store gives out at present, without asking it. -/
def relaysInView : Front → List Relay
  | direct backend => backend.memory.relays.values
  | cached state => state.cache.relays.values

/-- An action on the backend, whether or not a cache stands in front. -/
def onBackend {α : Type} (act : Backend → Except StoreFault α × Backend) : StoreAction α :=
  fun front =>
    let (answer, backend) := act front.backend
    (answer, front.withBackend backend)

/-- An action that goes through the cache if there is one. -/
def through {α : Type} (operation : Cache.Operation α)
    (act : Backend → Except StoreFault α × Backend)
    : StoreAction α
  | direct backend =>
      let (answer, later) := act backend
      (answer, direct later)
  | cached state =>
      let (answer, later) := state.run operation
      (answer, cached later)

/-- Checks a key, and if asked also whether it is an administrator's. -/
def validateKey (key : String) (admin : Bool) : StoreAction Bool :=
  through (Cache.validateKey admin key) (·.read .validateKey (·.acceptsKey key admin))

/-- All keys. -/
def listKeys : StoreAction (List ApiKey) := onBackend (·.read .listKeys (·.apiKeys.values))

/-- Files a key. -/
def putKey (apiKey : ApiKey) : StoreAction Unit :=
  through (Cache.putKey apiKey) (·.write .putKey (·.putKey apiKey))

/-- All relays. -/
def listRelays : StoreAction (List Relay) :=
  through Cache.listRelays (·.read .listRelays (·.relays.values))

/-- The relay of a host. -/
def getRelay (host : String) : StoreAction (Option Relay) :=
  through (Cache.getRelay host) (·.read .getRelay (·.relays.get? host))

/-- Files a relay. -/
def putRelay (relay : Relay) : StoreAction Unit :=
  through (Cache.putRelay relay) (·.write .putRelay (·.putRelay relay))

/-- Files a report. -/
def putReport (report : Report) : StoreAction Unit :=
  onBackend (·.write .putReport (·.putReport report))

/-- How many nodes have a latest report. -/
def countReports : StoreAction Nat := onBackend (·.read .countReports (·.reports.size))

/-- A page of the latest reports received in a window of time. -/
def listReports (skip limit minutes : Nat) (projection : Projection) (now : Int)
    : StoreAction (List Report) :=
  onBackend (·.read .listReports (·.listReports skip limit minutes projection now))

/-- The latest reports with a custom id received in a window of time. -/
def listByCustomId (customId : String) (minutes : Nat) (projection : Projection) (now : Int)
    : StoreAction (List Report) :=
  onBackend (·.read .listByCustomId (·.listByCustomId customId minutes projection now))

/-- The latest report of a node. -/
def getReport (id : String) : StoreAction (Option Report) :=
  onBackend (·.read .getReport (·.reports.get? id))

/-- Drops the latest report of a node. -/
def deleteReport (id : String) : StoreAction Unit :=
  onBackend (·.write .deleteReport (·.deleteReport id))

/-- Every report of a node, the oldest first. -/
def listHistory (id : String) : StoreAction (List Report) :=
  onBackend (·.read .listHistory (·.historyOf id))

/-- A session. -/
def getSession (id : String) : StoreAction (Option Session) :=
  onBackend (·.read .getSession (·.sessions.get? id))

/-- Files a session. -/
def putSession (session : Session) : StoreAction Unit :=
  onBackend (·.write .putSession (·.putSession session))

/-- Drops a session. -/
def deleteSession (id : String) : StoreAction Unit :=
  onBackend (·.write .deleteSession (·.deleteSession id))

end Front

end FleetOps
