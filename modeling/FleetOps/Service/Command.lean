import FleetOps.Http.MediaType
import FleetOps.Service.Caller
import FleetOps.Service.Page
import FleetOps.Settings
import FleetOps.Text.Form

/-! Commands for nodes. Everything that can be checked is checked in a fixed order before the
network is touched, and the first check that fails answers the request.
-/

namespace FleetOps.Service

/-- The fields of the form; those that are missing are empty. -/
structure CommandForm where
  user : String
  password : String
  key : String
  command : String
  timeout : String

/-- Reads the fields of a form, each of which may occur once. -/
def CommandForm.ofPairs? (pairs : List (String × String)) : Option CommandForm := do
  let user ← Form.single? pairs "user"
  let password ← Form.single? pairs "password"
  let key ← Form.single? pairs "key"
  let command ← Form.single? pairs "command"
  let timeout ← Form.single? pairs "timeout"
  some
    {
      user := user.getD ""
      password := password.getD ""
      key := key.getD ""
      command := command.getD ""
      timeout := timeout.getD ""
    }

/-- The form that a request brings. -/
def CommandForm.ofRequest? (request : Http.Request) : Option CommandForm :=
  if request.hasContentType "x-www-form-urlencoded" then
    match request.body with
    | .ok body => ofPairs? (Form.pairs body)
    | .error _ => none
  else none

/-- A command that may be run: who logs in to the node and how, and how long it may take, in
seconds.
-/
structure CommandRequest where
  user : String
  command : String
  timeout : Nat
  credentials : Credentials

/-- Checks a form. -/
def CommandRequest.ofForm (form : CommandForm) (defaultTimeout : Nat)
    (readKey : PrivateKey.Reader := PrivateKey.decode?)
    : Except Failure CommandRequest :=
  let user := Text.trim form.user
  let command := Text.trim form.command
  if user.isEmpty then .error (.missingField "User name required")
  else if command.isEmpty then .error (.missingField "Command required")
  else
    match requestedTimeout form.timeout with
    | .error failure => .error failure
    | .ok timeout =>
        match Credentials.build user (Text.trim form.key) (Text.trim form.password) readKey with
        | .error failure => .error failure
        | .ok credentials =>
            .ok
              {
                user := user
                command := command
                timeout := timeout.getD defaultTimeout
                credentials := credentials
              }

/-- The latest report of a node and the plan of a command for it. -/
def planFor (node command : String) (credentials : Credentials)
    (readKey : PrivateKey.Reader := PrivateKey.decode?)
    : Action (Report × Supervision.Plan) := do
  let report ← Action.require .nodeNotFound (← Action.ask (Front.getReport node))
  let port ← Action.require .notConnected report.tunnelPort
  let relay ←
    Action.require .relayNotRegistered (← Action.ask (Front.getRelay report.relayHost))
  match Credentials.build relay.user relay.key relay.password readKey with
  | .error _ => throw .relayMisconfigured
  | .ok relayCredentials =>
      pure
        (report,
          {
            node := node
            relay := relay
            relayCredentials := relayCredentials
            port := port
            nodeCredentials := credentials
            command := command
          })

/-- A request for a command that has passed all checks. -/
structure Prepared where
  caller : Caller
  request : CommandRequest
  report : Report
  plan : Supervision.Plan

/-- Checks a request for a command on a node. -/
def prepare (context : Context) (request : Http.Request) (id : String) : Action Prepared := do
  let node := Text.trim id
  if node.isEmpty then throw .nodeNotFound
  let caller ← identify request context.now
  let form ← Action.require .invalidForm (CommandForm.ofRequest? request)
  match CommandRequest.ofForm form context.commandTimeout context.readKey with
  | .error failure => throw failure
  | .ok command =>
      let (report, plan) ← planFor node command.command command.credentials context.readKey
      pure { caller := caller, request := command, report := report, plan := plan }

/-- The run of a command; the time limit is in seconds. -/
def Prepared.run (prepared : Prepared) (context : Context) : Supervision.Run :=
  Supervision.run context.hops prepared.plan (prepared.request.timeout * 1000)

/-- The response once a command has been run: programs get the bytes of the output, browsers
the page of the node with the output as text.
-/
def Prepared.response (prepared : Prepared) (outcome : Supervision.Outcome) : Http.Response :=
  match outcome.result with
  | .error failure => failureResponse failure
  | .ok output =>
      match prepared.caller with
      | .program => .typed 200 "text/plain; charset=utf-8" (.bytes output)
      | .browser _ =>
          pageResponse
            (Page.text
              {
                report := prepared.report
                user := prepared.request.user
                response := some (Utf8.decodeLossy output)
              })

end FleetOps.Service
