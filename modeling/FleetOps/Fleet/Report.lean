import FleetOps.Json.Reader
import FleetOps.Text.Blank

/-! Status reports of nodes. A report has the fields the service works with; everything else
that a node's agent sends is telemetry, which is kept as it came.
-/

namespace FleetOps

/-- A report of a node. Texts that are empty and times that are zero are unknown. -/
structure Report where
  id : String
  customId : String
  hostname : String
  agentVersion : String
  /-- The relay that holds the node's reverse tunnel. -/
  relayHost : String
  /-- The port on the relay at which the tunnel listens; below one there is no tunnel. -/
  remotePort : Int
  connectTime : Int
  globalIp : String
  globalHost : String
  /-- When the service received the report, in seconds of universal time. -/
  receivedAt : Int
  /-- The key with which the report was sent. -/
  apiKey : String
  telemetry : Table Json.Value

/-- Which fields a listing shows. -/
inductive Projection where
  | all
  | identity
  | listView
  deriving DecidableEq

namespace Projection

/-- The projection that a query names. Unknown names select all fields. -/
def ofName (name : String) : Projection :=
  let trimmed := Text.trim name
  if trimmed == "id" then identity
  else if trimmed == "list-view" then listView
  else all

/-- The telemetry that a projection other than `all` keeps. -/
def telemetryNames : Projection → List String
  | all => []
  | identity => ["success"]
  | listView => ["ip4_local", "ip6_local", "seq", "success", "errors"]

end Projection

namespace Report

/-- The report of a node of which nothing but its id is known. -/
def blank (id : String) : Report :=
  {
    id := id
    customId := ""
    hostname := ""
    agentVersion := ""
    relayHost := ""
    remotePort := 0
    connectTime := 0
    globalIp := ""
    globalHost := ""
    receivedAt := 0
    apiKey := ""
    telemetry := Table.empty
  }

/-- The port of the node's tunnel, if it has one. -/
def tunnelPort (report : Report) : Option UInt16 :=
  if 1 ≤ report.remotePort && report.remotePort ≤ 0xFFFF
  then some report.remotePort.toNat.toUInt16
  else none

/-- Whether the report was received in the last `minutes` before `now`. A window of zero
minutes holds every report.
-/
def receivedWithin (report : Report) (minutes : Nat) (now : Int) : Bool :=
  minutes == 0 || now - minutes * 60 ≤ report.receivedAt

/-- The telemetry under the given names. -/
def keepTelemetry (report : Report) (names : List String) : Table Json.Value :=
  report.telemetry.filter fun name _ => names.contains name

/-- The report without the fields that a projection does not show. -/
def project (report : Report) (projection : Projection) : Report :=
  match projection with
  | .all => report
  | .identity =>
      {
        blank report.id with
        customId := report.customId
        receivedAt := report.receivedAt
        telemetry := report.keepTelemetry (Projection.telemetryNames .identity)
      }
  | .listView =>
      {
        blank report.id with
        customId := report.customId
        hostname := report.hostname
        agentVersion := report.agentVersion
        relayHost := report.relayHost
        remotePort := report.remotePort
        globalIp := report.globalIp
        globalHost := report.globalHost
        receivedAt := report.receivedAt
        telemetry := report.keepTelemetry (Projection.telemetryNames .listView)
      }

/-- The names of the fields that are not telemetry, in the order in which they are written. -/
def fieldNames : List String :=
  ["id", "custom_id", "hostname", "agent_version", "ssh_server_host", "ssh_remote_port",
    "ssh_connect_time", "ip_global", "host_global", "server_time", "api_key"]

/-- A text as a member, which an empty text is not. -/
def textMember (name value : String) : List (String × Json.Value) :=
  if value.isEmpty then [] else [(name, .text value)]

/-- A number as a member. -/
def intMember (name : String) (value : Int) : List (String × Json.Value) :=
  [(name, .number (.int value))]

/-- The members of the object that a report is written as: the fields in order, then the
telemetry. Unknown fields are left out, but for the port and the time of receipt.
-/
def members (report : Report) : List (String × Json.Value) :=
  [("id", .text report.id)]
    ++ textMember "custom_id" report.customId
    ++ textMember "hostname" report.hostname
    ++ textMember "agent_version" report.agentVersion
    ++ textMember "ssh_server_host" report.relayHost
    ++ intMember "ssh_remote_port" report.remotePort
    ++ (if report.connectTime == 0 then []
        else intMember "ssh_connect_time" report.connectTime)
    ++ textMember "ip_global" report.globalIp
    ++ textMember "host_global" report.globalHost
    ++ intMember "server_time" report.receivedAt
    ++ textMember "api_key" report.apiKey
    ++ report.telemetry.pairs

/-- The object that a report is written as. -/
def toValue (report : Report) : Json.Value := .object report.members

/-- Reads the telemetry among the fields of an object with at most `budget` brackets open
inside it.
-/
def readTelemetry? (budget : Nat) (fields : Json.Fields) : Option (Table Json.Value) :=
  let values := (fields.undeclared fieldNames).mapM fun (name, tree) =>
    (tree.toValue? budget).map fun value => (name, value)
  values.map Table.ofPairs

/-- Reads a report from its fields. -/
def ofFields? (budget : Nat) (fields : Json.Fields) : Option Report := do
  let id ← fields.required? "id" (·.text?)
  let customId ← fields.optional? "custom_id" (·.text?) ""
  let hostname ← fields.optional? "hostname" (·.text?) ""
  let agentVersion ← fields.optional? "agent_version" (·.text?) ""
  let relayHost ← fields.optional? "ssh_server_host" (·.text?) ""
  let remotePort ← fields.optional? "ssh_remote_port" (·.signed64?) 0
  let connectTime ← fields.optional? "ssh_connect_time" (·.signed64?) 0
  let globalIp ← fields.optional? "ip_global" (·.text?) ""
  let globalHost ← fields.optional? "host_global" (·.text?) ""
  let receivedAt ← fields.optional? "server_time" (·.signed64?) 0
  let apiKey ← fields.optional? "api_key" (·.text?) ""
  let telemetry ← readTelemetry? budget fields
  some
    {
      id := id
      customId := customId
      hostname := hostname
      agentVersion := agentVersion
      relayHost := relayHost
      remotePort := remotePort
      connectTime := connectTime
      globalIp := globalIp
      globalHost := globalHost
      receivedAt := receivedAt
      apiKey := apiKey
      telemetry := telemetry
    }

/-- Reads a report from a tree with at most `budget` open brackets. Only an object is one. -/
def ofTree? (budget : Nat) (tree : Json.Tree) : Option Report :=
  match budget with
  | 0 => none
  | inner + 1 => tree.members?.bind (ofFields? inner)

end Report

end FleetOps
