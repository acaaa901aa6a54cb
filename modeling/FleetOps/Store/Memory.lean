import FleetOps.Fleet.Access
import FleetOps.Fleet.Relay
import FleetOps.Fleet.Report

/-! The contents of the store: everything that is known about keys, relays, nodes and
sessions. A node has a latest report and a history; forgetting the node drops the first and
keeps the second.
-/

namespace FleetOps

/-- What the store holds, each entry under its own name. -/
structure Memory where
  apiKeys : Table ApiKey
  relays : Table Relay
  reports : Table Report
  history : Table (List Report)
  sessions : Table Session

namespace Memory

/-- The store that holds nothing. -/
def empty : Memory :=
  {
    apiKeys := .empty
    relays := .empty
    reports := .empty
    history := .empty
    sessions := .empty
  }

/-- Whether a key is known, and if asked also whether it is an administrator's. The empty
key never is.
-/
def acceptsKey (memory : Memory) (key : String) (admin : Bool) : Bool :=
  if key.isEmpty then false
  else
    match memory.apiKeys.get? key with
    | some entry => !admin || entry.admin
    | none => false

/-- Files a key. -/
def putKey (memory : Memory) (apiKey : ApiKey) : Memory :=
  { memory with apiKeys := memory.apiKeys.insert apiKey.key apiKey }

/-- Files a relay under its host. -/
def putRelay (memory : Memory) (relay : Relay) : Memory :=
  { memory with relays := memory.relays.insert relay.host relay }

/-- Every report of a node, the oldest first. -/
def historyOf (memory : Memory) (id : String) : List Report :=
  (memory.history.get? id).getD []

/-- Makes a report the latest of its node and adds it to the node's history. -/
def putReport (memory : Memory) (report : Report) : Memory :=
  {
    memory with
    history := memory.history.insert report.id (memory.historyOf report.id ++ [report])
    reports := memory.reports.insert report.id report
  }

/-- Drops the latest report of a node. -/
def deleteReport (memory : Memory) (id : String) : Memory :=
  { memory with reports := memory.reports.erase id }

/-- Files a session. -/
def putSession (memory : Memory) (session : Session) : Memory :=
  { memory with sessions := memory.sessions.insert session.id session }

/-- Drops a session. -/
def deleteSession (memory : Memory) (id : String) : Memory :=
  { memory with sessions := memory.sessions.erase id }

/-- The latest reports received in a window of time, by id, as far as they pass a test. -/
def latest (memory : Memory) (minutes : Nat) (now : Int) (keep : Report → Bool)
    : List Report :=
  memory.reports.values.filter fun report => report.receivedWithin minutes now && keep report

/-- A page of a list. A limit of zero is none. -/
def page {α : Type} (skip limit : Nat) (items : List α) : List α :=
  if limit == 0 then items.drop skip else (items.drop skip).take limit

/-- A page of the latest reports received in a window of time. -/
def listReports (memory : Memory) (skip limit minutes : Nat) (projection : Projection)
    (now : Int)
    : List Report :=
  (page skip limit (memory.latest minutes now fun _ => true)).map (·.project projection)

/-- The latest reports of the nodes with a custom id. -/
def listByCustomId (memory : Memory) (customId : String) (minutes : Nat)
    (projection : Projection) (now : Int)
    : List Report :=
  (memory.latest minutes now fun report => report.customId == customId).map
    (·.project projection)

end Memory

end FleetOps
