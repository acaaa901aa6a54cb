import FleetOps.Http.Coding
import FleetOps.Http.Message
import FleetOps.Json.Printer
import FleetOps.Store.Front
import FleetOps.Supervision.Run

/-! What the handlers of requests are made of: steps that may fail and that work on the
store, and what a request finds around it.
-/

namespace FleetOps.Service

/-- A step of a handler. What was done to the store before a failure stays done. -/
abbrev Action (α : Type) := ExceptT Failure (StateM Front) α

namespace Action

/-- Asks the store. -/
def ask {α : Type} (act : StoreAction α) : Action α :=
  ExceptT.mk fun front =>
    let (answer, later) := act front
    (answer.mapError Failure.storage, later)

/-- Ends with a failure unless a value is there. -/
def require {α : Type} (failure : Failure) : Option α → Action α
  | some value => pure value
  | none => throw failure

/-- The result of an action on a store, and the store afterwards. -/
def perform {α : Type} (action : Action α) (front : Front) : Except Failure α × Front :=
  ExceptT.run action front

end Action

/-- What a request finds around it: the time, the time limit for commands in seconds, the
way to the nodes, a number that decides among relays, and what reads the keys of logins and
bodies in the codings of others.
-/
structure Context where
  now : Int
  commandTimeout : Nat
  hops : Supervision.Hops
  draw : Nat
  readKey : PrivateKey.Reader := PrivateKey.decode?
  decoders : Http.Decoders := .absent

/-- The response to a request that fails. -/
def failureResponse (failure : Failure) : Http.Response :=
  .plain failure.status failure.message

/-- The response of JSON text. -/
def jsonResponse (status : Nat) (value : Json.Value) : Http.Response :=
  .typed status "application/json; charset=utf-8" (.bytes (Utf8.encode value.render))

/-- The response of a page. -/
def pageResponse (page : String) : Http.Response :=
  .typed 200 "text/html; charset=utf-8" (.bytes (Utf8.encode page))

end FleetOps.Service
