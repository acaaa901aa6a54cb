import FleetOps.Http.MediaType
import FleetOps.Service.Caller

/-! What comes into the store over HTTP: the reports of nodes and the registrations of
relays.
-/

namespace FleetOps.Service

/-- The tree of the JSON body of a request. -/
def jsonBody? (request : Http.Request) : Option Json.Tree :=
  if request.hasContentType "json" then
    match request.body with
    | .ok body => Json.Tree.ofBytes? body
    | .error _ => none
  else none

/-- The report with the marks of its receipt: when, with which key and from where it came. -/
def stamp (report : Report) (now : Int) (key address : String) : Report :=
  {
    report with
    receivedAt := now
    apiKey := key
    globalIp := address
    globalHost := address
  }

/-- The login for the relay that a number picks. -/
def pickLogin (relays : List Relay) (draw : Nat) : RelayLogin :=
  match relays[draw % relays.length]? with
  | some relay => relay.login
  | none => .none

/-- A report comes in: it is stamped and stored, and answered with the login for a relay. -/
def checkIn (context : Context) (request : Http.Request) : Action Http.Response := do
  requireKey request false
  let report ←
    Action.require .invalidJson
      ((jsonBody? request).bind (Report.ofTree? Json.maxOpenBrackets))
  if Text.isBlankText report.id then throw (.missingField "ID required")
  let key := (presentedKey request).getD ""
  Action.ask (Front.putReport (stamp report context.now key (callerAddress request)))
  let relays ← Action.ask Front.listRelays
  pure (jsonResponse 201 (pickLogin relays context.draw).toValue)

/-- A registration without blanks around its fields, if it can be used for logging in. -/
def validateRelay (relay : Relay) (readKey : PrivateKey.Reader := PrivateKey.decode?)
    : Except Failure Relay :=
  let trimmed : Relay :=
    {
      host := Text.trim relay.host
      port := relay.port
      user := Text.trim relay.user
      key := Text.trim relay.key
      password := Text.trim relay.password
    }
  if trimmed.host.isEmpty then .error (.missingField "Host required")
  else if trimmed.port == 0 then .error (.missingField "Port required")
  else if trimmed.user.isEmpty then .error (.missingField "User required")
  else if trimmed.key.isEmpty && trimmed.password.isEmpty then
    .error (.missingField "Key or password required")
  else
    match Credentials.build trimmed.user trimmed.key trimmed.password readKey with
    | .error failure => .error failure
    | .ok _ => .ok trimmed

/-- A relay is registered. -/
def registerRelay (context : Context) (request : Http.Request) : Action Http.Response := do
  requireKey request true
  let relay ← Action.require .invalidJson ((jsonBody? request).bind Relay.ofTree?)
  match validateRelay relay context.readKey with
  | .error failure => throw failure
  | .ok valid =>
      Action.ask (Front.putRelay valid)
      pure (.empty 201)

end FleetOps.Service
