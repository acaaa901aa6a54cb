import FleetOps.Failure
import FleetOps.Store.Memory
import FleetOps.Text.Utf8

/-! The contents with which a store starts. They are put into it one by one, as if they had
come in later, so the reports also start the histories of their nodes.
-/

namespace FleetOps

/-- What is put into a store at the start. -/
structure Seed where
  apiKeys : List ApiKey
  relays : List Relay
  reports : List Report
  sessions : List Session

namespace Seed

/-- The declared fields of a seed. -/
def fieldNames : List String := ["api_keys", "ssh_servers", "reports", "sessions"]

/-- Reads a list of entries. -/
def entries? {α : Type} (read : Json.Tree → Option α) (tree : Json.Tree) : Option (List α) :=
  tree.items?.bind fun items => items.mapM read

/-- Reads a seed with at most `budget` open brackets. Fields that are not declared are passed
over.
-/
def ofTree? (budget : Nat) (tree : Json.Tree) : Option Seed := do
  let fields ← tree.fields? fieldNames
  let apiKeys ← Json.Fields.optional? fields "api_keys" (entries? ApiKey.ofTree?) []
  let relays ← Json.Fields.optional? fields "ssh_servers" (entries? Relay.ofTree?) []
  let reports ←
    Json.Fields.optional? fields "reports" (entries? (Report.ofTree? (budget - 2))) []
  let sessions ← Json.Fields.optional? fields "sessions" (entries? Session.ofTree?) []
  some
    {
      apiKeys := apiKeys
      relays := relays
      reports := reports
      sessions := sessions
    }

/-- Puts the contents of a seed into a store. -/
def apply (seed : Seed) (memory : Memory) : Memory :=
  let withKeys := seed.apiKeys.foldl Memory.putKey memory
  let withRelays := seed.relays.foldl Memory.putRelay withKeys
  let withReports := seed.reports.foldl Memory.putReport withRelays
  seed.sessions.foldl Memory.putSession withReports

/-- A file as it is found: its bytes, or nothing. -/
abbrev File := Option (List UInt8)

/-- The contents of a store started from a file. A fault of the contents is described by
`describe`.
-/
def load (path describe : String) (file : File) : Except StoreFault Memory :=
  match file with
  | none => .error (.seed path "No such file or directory (os error 2)")
  | some bytes =>
      match Utf8.decode? bytes with
      | none => .error (.seed path "stream did not contain valid UTF-8")
      | some text =>
          match (Json.Tree.ofText? text).bind (ofTree? Json.maxOpenBrackets) with
          | none => .error (.seed path describe)
          | some seed => .ok (seed.apply .empty)

end Seed

end FleetOps
