import FleetOps.Store.Front

/-! Everything that a store can be asked, as data, and runs of a store: each visit goes through
the front, or behind it to the backend alone.
-/

namespace FleetOps

/-- A request to the store. One that depends on the time brings it along. -/
inductive StoreRequest where
  | validateKey (key : String) (admin : Bool)
  | listKeys
  | putKey (apiKey : ApiKey)
  | listRelays
  | getRelay (host : String)
  | putRelay (relay : Relay)
  | putReport (report : Report)
  | countReports
  | listReports (skip limit minutes : Nat) (projection : Projection) (now : Int)
  | listByCustomId (customId : String) (minutes : Nat) (projection : Projection) (now : Int)
  | getReport (id : String)
  | deleteReport (id : String)
  | listHistory (id : String)
  | getSession (id : String)
  | putSession (session : Session)
  | deleteSession (id : String)

namespace StoreRequest

/-- What a request is answered with. -/
def Answer : StoreRequest → Type
  | validateKey _ _ => Bool
  | listKeys => List ApiKey
  | putKey _ => Unit
  | listRelays => List Relay
  | getRelay _ => Option Relay
  | putRelay _ => Unit
  | putReport _ => Unit
  | countReports => Nat
  | listReports _ _ _ _ _ => List Report
  | listByCustomId _ _ _ _ => List Report
  | getReport _ => Option Report
  | deleteReport _ => Unit
  | listHistory _ => List Report
  | getSession _ => Option Session
  | putSession _ => Unit
  | deleteSession _ => Unit

/-- Asks the store. -/
def perform : (request : StoreRequest) → StoreAction request.Answer
  | validateKey key admin => Front.validateKey key admin
  | listKeys => Front.listKeys
  | putKey apiKey => Front.putKey apiKey
  | listRelays => Front.listRelays
  | getRelay host => Front.getRelay host
  | putRelay relay => Front.putRelay relay
  | putReport report => Front.putReport report
  | countReports => Front.countReports
  | listReports skip limit minutes projection now =>
      Front.listReports skip limit minutes projection now
  | listByCustomId customId minutes projection now =>
      Front.listByCustomId customId minutes projection now
  | getReport id => Front.getReport id
  | deleteReport id => Front.deleteReport id
  | listHistory id => Front.listHistory id
  | getSession id => Front.getSession id
  | putSession session => Front.putSession session
  | deleteSession id => Front.deleteSession id

/-- What the contents by themselves answer, and the contents afterwards. -/
def onMemory : (request : StoreRequest) → Memory → request.Answer × Memory
  | validateKey key admin, memory => (memory.acceptsKey key admin, memory)
  | listKeys, memory => (memory.apiKeys.values, memory)
  | putKey apiKey, memory => ((), memory.putKey apiKey)
  | listRelays, memory => (memory.relays.values, memory)
  | getRelay host, memory => (memory.relays.get? host, memory)
  | putRelay relay, memory => ((), memory.putRelay relay)
  | putReport report, memory => ((), memory.putReport report)
  | countReports, memory => (memory.reports.size, memory)
  | listReports skip limit minutes projection now, memory =>
      (memory.listReports skip limit minutes projection now, memory)
  | listByCustomId customId minutes projection now, memory =>
      (memory.listByCustomId customId minutes projection now, memory)
  | getReport id, memory => (memory.reports.get? id, memory)
  | deleteReport id, memory => ((), memory.deleteReport id)
  | listHistory id, memory => (memory.historyOf id, memory)
  | getSession id, memory => (memory.sessions.get? id, memory)
  | putSession session, memory => ((), memory.putSession session)
  | deleteSession id, memory => ((), memory.deleteSession id)

end StoreRequest

/-- A visit to a store. -/
inductive Visit where
  | through (request : StoreRequest)
  | behind (request : StoreRequest)

/-- What a visit asks. -/
def Visit.request : Visit → StoreRequest
  | through request => request
  | behind request => request

namespace Front

/-- A store of given contents without a cache. -/
def plain (memory : Memory) : Front := direct (.ofMemory memory)

/-- A store of given contents with a cache that holds nothing yet. -/
def freshlyCached (memory : Memory) : Front :=
  cached { cache := .empty, backend := .ofMemory memory }

/-- Makes a visit. -/
def visit : (visit : Visit) → StoreAction visit.request.Answer
  | .through request => request.perform
  | .behind request => fun front =>
      let (answer, later) := request.perform (direct front.backend)
      (answer, front.withBackend later.backend)

/-- The store after some visits. -/
def after (front : Front) (visits : List Visit) : Front :=
  visits.foldl (fun front visit => (front.visit visit).2) front

section

variable (front : Front) (visits : List Visit)

@[simp] theorem after_nil : front.after [] = front := rfl

@[simp] theorem after_concat (visit : Visit)
    : front.after (visits ++ [visit]) = ((front.after visits).visit visit).2 := by
  simp [after]

theorem after_append (more : List Visit)
    : front.after (visits ++ more) = (front.after visits).after more := by
  simp [after]

end

end Front

end FleetOps
