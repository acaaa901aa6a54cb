import FleetOps.Http.Coding
import FleetOps.Service.CheckIn
import FleetOps.Service.Command
import FleetOps.Service.Measure
import FleetOps.Service.Nodes
import FleetOps.Service.Route

/-! The service: each request is answered by the handler of its route and method. -/

namespace FleetOps.Service

/-- What comes of a request: the response, the store afterwards, and the run of a command if
there was one.
-/
structure Exchange where
  response : Http.Response
  front : Front
  run : Option Supervision.Run

/-- The response to a path that no route has. -/
def noRoute : Http.Response := .plain 404 "not found"

/-- The response to a method that a route does not have. -/
def noMethod : Http.Response := .plain 405 "method not allowed"

/-- The response to a path whose varying piece is no text. -/
def badPath : Http.Response := .plain 400 "invalid path params"

/-- An exchange that leaves the store alone. -/
def untouched (front : Front) (response : Http.Response) : Exchange :=
  { response := response, front := front, run := none }

/-- Answers with the response of an action, or with its failure. -/
def answerWith (front : Front) (action : Action Http.Response) : Exchange :=
  let (result, later) := action.perform front
  match result with
  | .ok response => { response := response, front := later, run := none }
  | .error failure => { response := failureResponse failure, front := later, run := none }

/-- Answers a request that only asks for the head of a response: the body is left out unless
the request fails.
-/
def headOnly (exchange : Exchange) : Exchange :=
  if exchange.response.isSuccess then
    { exchange with response := exchange.response.withoutBody }
  else exchange

/-- Goes on with the text of a varying piece. -/
def withPiece (front : Front) (piece : List UInt8) (next : String → Exchange) : Exchange :=
  match Route.pieceText? piece with
  | some text => next text
  | none => untouched front badPath

/-- Answers a request that reads, by the exchange that its GET form has. -/
def reading (request : Http.Request) (front : Front) (exchange : Exchange) : Exchange :=
  if request.method == "GET" then exchange
  else if request.method == "HEAD" then headOnly exchange
  else untouched front noMethod

/-- Runs a command. -/
def answerCommand (context : Context) (request : Http.Request) (front : Front) (id : String)
    : Exchange :=
  let (result, later) := (prepare context request id).perform front
  match result with
  | .error failure => { response := failureResponse failure, front := later, run := none }
  | .ok prepared =>
      let run := prepared.run context
      { response := prepared.response run.outcome, front := later, run := some run }

/-- Answers a request for the list of nodes. -/
def answerNodes (context : Context) (request : Http.Request) (front : Front) : Exchange :=
  match ListQuery.ofRequest request with
  | .error reason => untouched front (.plain 400 reason)
  | .ok query => answerWith front (listNodes context request query)

/-- Answers a request for a route. -/
def answerRoute (context : Context) (request : Http.Request) (front : Front) (route : Route)
    : Exchange :=
  match route with
  | .nodes => reading request front (answerNodes context request front)
  | .node id =>
      if request.method == "DELETE" then
        withPiece front id fun id => answerWith front (forgetNode request id)
      else
        reading request front
          (withPiece front id fun id => answerWith front (showNode context request id))
  | .history id =>
      reading request front
        (withPiece front id fun id => answerWith front (showHistory request id))
  | .command id =>
      if request.method == "POST" then
        withPiece front id fun id => answerCommand context request front id
      else untouched front noMethod
  | .servers =>
      if request.method == "POST" then answerWith front (registerRelay context request)
      else untouched front noMethod
  | .report =>
      if request.method == "POST" then
        let exchange := answerWith front (checkIn context (request.decoded context.decoders))
        { exchange with response := exchange.response.encodedFor request }
      else untouched front noMethod
  | .measure size =>
      if request.method == "GET" || request.method == "HEAD" || request.method == "POST" then
        withPiece front size fun size =>
          match measure request size with
          | .ok response => untouched front response
          | .error failure => untouched front (failureResponse failure)
      else untouched front noMethod

/-- Answers a request. -/
def handle (context : Context) (request : Http.Request) (front : Front) : Exchange :=
  match Route.ofPath? request.uri.path with
  | none => untouched front noRoute
  | some route => answerRoute context request front route

/-- The signal for a shutdown: it comes, it never comes, or it cannot be waited for. -/
inductive ShutdownSignal where
  | comes
  | neverComes
  | failsToWatch (reason : String)

/-- Whether the service stops. If the signal cannot be waited for, it keeps running. -/
def ShutdownSignal.stops : ShutdownSignal → Bool
  | comes => true
  | _ => false

end FleetOps.Service
