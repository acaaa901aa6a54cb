import FleetOps.Json.Reader

/-! What callers identify themselves with: keys of programs and sessions of browsers. -/

namespace FleetOps

/-- A key of a program that calls the service. -/
structure ApiKey where
  key : String
  label : String
  admin : Bool
  deriving DecidableEq

/-- A session of a browser. An expiry of zero never comes. -/
structure Session where
  id : String
  user : String
  expiresAt : Int
  deriving DecidableEq

namespace ApiKey

/-- The declared fields of a key. -/
def fieldNames : List String := ["key", "label", "admin"]

/-- The object that a key is written as. -/
def toValue (apiKey : ApiKey) : Json.Value :=
  .object
    [("key", .text apiKey.key), ("label", .text apiKey.label), ("admin", .bool apiKey.admin)]

/-- Reads a key. Fields that are not declared are passed over. -/
def ofTree? (tree : Json.Tree) : Option ApiKey := do
  let fields ← tree.fields? fieldNames
  let key ← Json.Fields.required? fields "key" (·.text?)
  let label ← Json.Fields.optional? fields "label" (·.text?) ""
  let admin ← Json.Fields.optional? fields "admin" (·.bool?) false
  some { key := key, label := label, admin := admin }

end ApiKey

namespace Session

/-- Whether a user is logged in at a time. -/
def isLoggedIn (session : Session) (now : Int) : Bool :=
  !session.user.isEmpty && (session.expiresAt == 0 || now < session.expiresAt)

/-- The declared fields of a session. -/
def fieldNames : List String := ["id", "user", "expires_at"]

/-- The object that a session is written as. -/
def toValue (session : Session) : Json.Value :=
  .object
    [("id", .text session.id), ("user", .text session.user),
      ("expires_at", .number (.int session.expiresAt))]

/-- Reads a session. Fields that are not declared are passed over. -/
def ofTree? (tree : Json.Tree) : Option Session := do
  let fields ← tree.fields? fieldNames
  let id ← Json.Fields.required? fields "id" (·.text?)
  let user ← Json.Fields.optional? fields "user" (·.text?) ""
  let expiresAt ← Json.Fields.optional? fields "expires_at" (·.signed64?) 0
  some { id := id, user := user, expiresAt := expiresAt }

end Session

end FleetOps
