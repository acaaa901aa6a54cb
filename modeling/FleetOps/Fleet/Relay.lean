import FleetOps.Json.Reader

/-! Relays: the SSH servers on which the reverse tunnels of the nodes end, and the logins
for them that nodes are given.
-/

namespace FleetOps

/-- A registered relay. An empty key or password is not used for logging in. -/
structure Relay where
  host : String
  port : UInt16
  user : String
  key : String
  password : String
  deriving DecidableEq

/-- What a node needs to open its tunnel. Without a relay all of it is empty. -/
structure RelayLogin where
  host : String
  port : UInt16
  user : String
  key : String
  password : String
  deriving DecidableEq

namespace Relay

/-- The host and the port, with a colon between them. -/
def address (relay : Relay) : String := relay.host ++ ":" ++ toString relay.port.toNat

/-- The login for a relay. -/
def login (relay : Relay) : RelayLogin :=
  {
    host := relay.host
    port := relay.port
    user := relay.user
    key := relay.key
    password := relay.password
  }

/-- The declared fields of a relay. -/
def fieldNames : List String := ["host", "port", "user", "key", "password"]

/-- The object that a relay is written as. -/
def toValue (relay : Relay) : Json.Value :=
  .object
    ([("host", .text relay.host), ("port", .number (.int relay.port.toNat)),
      ("user", .text relay.user)]
      ++ (if relay.key.isEmpty then [] else [("key", .text relay.key)])
      ++ (if relay.password.isEmpty then [] else [("password", .text relay.password)]))

/-- Reads a relay. Fields that are not declared are passed over. -/
def ofTree? (tree : Json.Tree) : Option Relay := do
  let fields ← tree.fields? fieldNames
  let host ← Json.Fields.required? fields "host" (·.text?)
  let port ← Json.Fields.required? fields "port" (·.port?)
  let user ← Json.Fields.required? fields "user" (·.text?)
  let key ← Json.Fields.optional? fields "key" (·.text?) ""
  let password ← Json.Fields.optional? fields "password" (·.text?) ""
  some
    {
      host := host
      port := port
      user := user
      key := key
      password := password
    }

end Relay

namespace RelayLogin

/-- The login when there is no relay. -/
def none : RelayLogin :=
  { host := "", port := 0, user := "", key := "", password := "" }

/-- The declared fields of a login. -/
def fieldNames : List String :=
  ["ssh_host", "ssh_port", "ssh_user", "ssh_key", "ssh_password"]

/-- A text as a member, which an empty text is not. -/
def textMember (name value : String) : List (String × Json.Value) :=
  if value.isEmpty then [] else [(name, .text value)]

/-- The object that a login is written as, without what is empty. -/
def toValue (login : RelayLogin) : Json.Value :=
  .object
    (textMember "ssh_host" login.host
      ++ (if login.port == 0 then [] else [("ssh_port", .number (.int login.port.toNat))])
      ++ textMember "ssh_user" login.user
      ++ textMember "ssh_key" login.key
      ++ textMember "ssh_password" login.password)

/-- Reads a login. Fields that are not declared are passed over. -/
def ofTree? (tree : Json.Tree) : Option RelayLogin := do
  let fields ← tree.fields? fieldNames
  let host ← Json.Fields.optional? fields "ssh_host" (·.text?) ""
  let port ← Json.Fields.optional? fields "ssh_port" (·.port?) 0
  let user ← Json.Fields.optional? fields "ssh_user" (·.text?) ""
  let key ← Json.Fields.optional? fields "ssh_key" (·.text?) ""
  let password ← Json.Fields.optional? fields "ssh_password" (·.text?) ""
  some
    {
      host := host
      port := port
      user := user
      key := key
      password := password
    }

end RelayLogin

end FleetOps
