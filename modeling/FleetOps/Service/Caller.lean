import FleetOps.Http.Cookie
import FleetOps.Service.Action

/-! Who is calling: a program that presents a key, or a browser whose user is logged in. -/

namespace FleetOps.Service

/-- The name of the cookie that holds the session of a browser. -/
def sessionCookie : String := "fleet-session"

/-- What stands before the key in the header that presents it. -/
def tokenMark : List Char := "token ".toList

/-- The key in the value of an authorization header: what follows the mark if it is there,
without blanks around it. A blank key is none.
-/
def keyOf (value : List Char) : Option (List Char) :=
  let trimmed := Text.trimChars value
  let rest := if tokenMark.isPrefixOf trimmed then trimmed.drop tokenMark.length else trimmed
  let key := Text.trimChars rest
  if key.isEmpty then none else some key

/-- The key that a request presents. -/
def presentedKey (request : Http.Request) : Option String :=
  ((request.header? "authorization").bind fun value => keyOf value.toList).map String.ofList

/-- A caller of a route that is open to programs and browsers. -/
inductive Caller where
  | program
  | browser (user : String)

/-- Fails unless the request presents an accepted key, and if asked an administrator's. -/
def requireKey (request : Http.Request) (admin : Bool) : Action Unit := do
  let key ← Action.require .unauthorized (presentedKey request)
  let accepted ← Action.ask (Front.validateKey key admin)
  if accepted then pure () else throw .unauthorized

/-- The user who is logged in on the browser, if one is. -/
def sessionUser (request : Http.Request) (now : Int) : Action (Option String) := do
  match Http.Cookie.find? request sessionCookie with
  | none => pure none
  | some id =>
      if id.isEmpty then pure none
      else do
        let session ← Action.ask (Front.getSession id)
        pure ((session.filter fun session => session.isLoggedIn now).map (·.user))

/-- The browser's user, or a failure that depends on whether a key was presented. -/
def identifyBrowser (request : Http.Request) (now : Int) : Action Caller := do
  match ← sessionUser request now with
  | some user => pure (.browser user)
  | none =>
      if (presentedKey request).isSome then throw .unauthorized else throw .forbidden

/-- The caller: an accepted administrator's key goes before a session. -/
def identify (request : Http.Request) (now : Int) : Action Caller := do
  match presentedKey request with
  | none => identifyBrowser request now
  | some key =>
      let accepted ← Action.ask (Front.validateKey key true)
      if accepted then pure .program else identifyBrowser request now

/-- Fails unless a user is logged in on the browser. -/
def requireSession (request : Http.Request) (now : Int) : Action Unit := do
  match ← sessionUser request now with
  | some _ => pure ()
  | none => throw .forbidden

/-- The address of the caller: the first entry that is not blank of the list that proxies
keep, else the address of the peer.
-/
def callerAddress (request : Http.Request) : String :=
  let entries := (request.header? "x-forwarded-for").map fun value =>
    (Http.Cookie.splitChars ',' value.toList).map Text.trimChars
  match (entries.getD []).find? (!·.isEmpty) with
  | some entry => String.ofList entry
  | none => (request.peer.map (·.text)).getD ""

end FleetOps.Service
