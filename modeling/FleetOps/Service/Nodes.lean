import FleetOps.Service.Caller
import FleetOps.Service.Page
import FleetOps.Text.Form

/-! Looking at nodes: their list, one of them, its history, and forgetting it. -/

namespace FleetOps.Service

/-- What a query for the list of nodes asks for. -/
structure ListQuery where
  skip : Nat
  limit : Nat
  customId : String
  minutes : String
  projection : String

namespace ListQuery

/-- The query that asks for everything. -/
def everything : ListQuery :=
  { skip := 0, limit := 0, customId := "", minutes := "", projection := "" }

/-- The names that a query may hold, each once. -/
def fieldNames : List String := ["skip", "limit", "custom-id", "minutes", "projection"]

/-- A number of the query. -/
def number (text : String) : Except String Nat :=
  (Text.naturalWithin Text.word64Limit text).mapError (·.message)

/-- Takes over the value of a name. -/
def set (query : ListQuery) (name value : String) : Except String ListQuery :=
  if name == "skip" then (number value).map fun n => { query with skip := n }
  else if name == "limit" then (number value).map fun n => { query with limit := n }
  else if name == "custom-id" then .ok { query with customId := value }
  else if name == "minutes" then .ok { query with minutes := value }
  else if name == "projection" then .ok { query with projection := value }
  else .ok query

/-- Reads the pairs of a query in order, after those with the names in `seen`. The first
fault is told.
-/
def ofPairs (query : ListQuery) (seen : List String)
    : List (String × String) → Except String ListQuery
  | [] => .ok query
  | (name, value) :: rest =>
      if fieldNames.contains name && seen.contains name then
        .error ("duplicate field `" ++ name ++ "`")
      else
        match query.set name value with
        | .error reason => .error reason
        | .ok later => ofPairs later (name :: seen) rest

/-- The query of a request. -/
def ofRequest (request : Http.Request) : Except String ListQuery :=
  ofPairs everything [] (Form.pairs (request.uri.query.getD []))

/-- The window of time; a text that is no number asks for none. -/
def window (query : ListQuery) : Nat :=
  match Text.naturalWithin Text.word32Limit (Text.trim query.minutes) with
  | .ok n => n
  | .error _ => 0

end ListQuery

/-- Reports as a list. -/
def reportList (reports : List Report) : Json.Value := .array (reports.map (·.toValue))

/-- The reports that a query asks for. With a custom id there are no pages. -/
def selectReports (query : ListQuery) (now : Int) : Action (List Report) :=
  let projection := Projection.ofName query.projection
  let customId := Text.trim query.customId
  if customId.isEmpty then
    Action.ask (Front.listReports query.skip query.limit query.window projection now)
  else Action.ask (Front.listByCustomId customId query.window projection now)

/-- The list of nodes. -/
def listNodes (context : Context) (request : Http.Request) (query : ListQuery)
    : Action Http.Response := do
  requireKey request true
  let reports ← selectReports query context.now
  pure (jsonResponse 200 (reportList reports))

/-- Whether a request asks for JSON. -/
def wantsJson (request : Http.Request) : Bool :=
  match request.header? "accept" with
  | some accept => Text.trim accept == "application/json"
  | none => false

/-- One node, as JSON for administrators' programs and as a page for browsers. -/
def showNode (context : Context) (request : Http.Request) (id : String)
    : Action Http.Response := do
  let node := Text.trim id
  if node.isEmpty then throw .nodeNotFound
  if wantsJson request then
    requireKey request true
    let report ← Action.require .nodeNotFound (← Action.ask (Front.getReport node))
    pure (jsonResponse 200 report.toValue)
  else
    requireSession request context.now
    let report ← Action.require .nodeNotFound (← Action.ask (Front.getReport node))
    pure (pageResponse (Page.ofReport report).text)

/-- Forgets the latest report of a node. -/
def forgetNode (request : Http.Request) (id : String) : Action Http.Response := do
  requireKey request true
  let node := Text.trim id
  let _ ← Action.require .nodeNotFound (← Action.ask (Front.getReport node))
  Action.ask (Front.deleteReport node)
  pure (.empty 204)

/-- The history of a node, the oldest report first. -/
def showHistory (request : Http.Request) (id : String) : Action Http.Response := do
  requireKey request true
  let history ← Action.ask (Front.listHistory (Text.trim id))
  pure (jsonResponse 200 (reportList history))

end FleetOps.Service
