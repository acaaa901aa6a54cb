import FleetOps.Fleet.Report
import FleetOps.Text.Markup

/-! The page of a node: what its latest report says of it, a form for commands, and the
output of the last one.
-/

namespace FleetOps.Service

/-- What a page shows. -/
structure Page where
  report : Report
  /-- The user that the form suggests. -/
  user : String
  /-- The output below the form. -/
  response : Option String

namespace Page

/-- The page of a node before a command. -/
def ofReport (report : Report) : Page :=
  { report := report, user := "", response := none }

/-- The hostname of the node, or else its id. -/
def title (page : Page) : String :=
  if page.report.hostname.isEmpty then page.report.id else page.report.hostname

/-- The relay and the port of the node's tunnel, if it has one. -/
def tunnel (page : Page) : String :=
  match page.report.tunnelPort with
  | some port => Markup.escape page.report.relayHost ++ ":" ++ toString port.toNat
  | none => "not connected"

/-- A row of the table, unless there is nothing to show. -/
def row (name value : String) : List String :=
  if value.isEmpty then []
  else ["<tr><th>" ++ name ++ "</th><td>" ++ Markup.escape value ++ "</td></tr>"]

/-- The lines above the table, and the row of the id. -/
def header (page : Page) : List String :=
  [
    "<!DOCTYPE html>",
    "<html>",
    "<head><meta charset=\"utf-8\"><title>" ++ Markup.escape page.title ++ "</title></head>",
    "<body>",
    "<h1>" ++ Markup.escape page.title ++ "</h1>",
    "<table>",
    "<tr><th>ID</th><td>" ++ Markup.escape page.report.id ++ "</td></tr>"
  ]

/-- The lines of the form. -/
def form (page : Page) : List String :=
  [
    "<form method=\"post\" action=\"/nodes/" ++ Markup.escape page.report.id ++ "/command\">",
    "<input name=\"user\" placeholder=\"user\" value=\"" ++ Markup.escape page.user ++ "\">",
    "<input name=\"password\" type=\"password\" placeholder=\"password\">",
    "<textarea name=\"key\" placeholder=\"private key\"></textarea>",
    "<input name=\"command\" placeholder=\"command\">",
    "<input name=\"timeout\" placeholder=\"timeout (s)\">",
    "<button type=\"submit\">Run</button>",
    "</form>"
  ]

/-- The line of the output, if there is one. -/
def output (page : Page) : List String :=
  match page.response with
  | some response => ["<pre id=\"response\">" ++ Markup.escape response ++ "</pre>"]
  | none => []

/-- The lines of the page. -/
def lines (page : Page) : List String :=
  page.header
    ++ row "Custom ID" page.report.customId
    ++ row "Agent" page.report.agentVersion
    ++ row "Global IP" page.report.globalIp
    ++ ["<tr><th>SSH</th><td>" ++ page.tunnel ++ "</td></tr>", "</table>"]
    ++ page.form
    ++ page.output
    ++ ["</body>", "</html>"]

/-- Lines with line feeds between them. -/
def join : List String → String
  | [] => ""
  | [line] => line
  | line :: rest => line ++ "\n" ++ join rest

/-- The text of the page. -/
def text (page : Page) : String := join page.lines

end Page

end FleetOps.Service
