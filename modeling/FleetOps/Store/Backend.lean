import FleetOps.Failure
import FleetOps.Store.Memory

/-! The backend of the store. Each call of a method either fails and changes nothing, or is
done on the contents; the calls are counted either way.
-/

namespace FleetOps

/-- The methods of the store. -/
inductive StoreMethod where
  | validateKey
  | listKeys
  | putKey
  | listRelays
  | getRelay
  | putRelay
  | putReport
  | countReports
  | listReports
  | listByCustomId
  | getReport
  | deleteReport
  | listHistory
  | getSession
  | putSession
  | deleteSession
  deriving DecidableEq

/-- The backend: its contents, the methods that fail at present with what they say, and the
calls so far, the latest first.
-/
structure Backend where
  memory : Memory
  outages : List (StoreMethod × String)
  calls : List StoreMethod

namespace Backend

/-- The backend with given contents, in working order. -/
def ofMemory (memory : Memory) : Backend :=
  { memory := memory, outages := [], calls := [] }

/-- The fault of a method that fails at present. -/
def fault? (backend : Backend) (method : StoreMethod) : Option StoreFault :=
  (backend.outages.find? fun outage => outage.1 == method).map fun outage =>
    .unavailable outage.2

/-- Calls a method. -/
def call {α : Type} (method : StoreMethod) (act : Memory → α × Memory) (backend : Backend)
    : Except StoreFault α × Backend :=
  let counted := { backend with calls := method :: backend.calls }
  match backend.fault? method with
  | some fault => (.error fault, counted)
  | none =>
      let (value, memory) := act backend.memory
      (.ok value, { counted with memory := memory })

/-- Calls a method that only reads. -/
def read {α : Type} (method : StoreMethod) (view : Memory → α) (backend : Backend)
    : Except StoreFault α × Backend :=
  backend.call method fun memory => (view memory, memory)

/-- Calls a method that only writes. -/
def write (method : StoreMethod) (change : Memory → Memory) (backend : Backend)
    : Except StoreFault Unit × Backend :=
  backend.call method fun memory => ((), change memory)

/-- How often one of some methods has been called. -/
def count (backend : Backend) (methods : List StoreMethod) : Nat :=
  backend.calls.countP methods.contains

end Backend

end FleetOps
