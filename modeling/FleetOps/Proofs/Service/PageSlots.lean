import FleetOps.Proofs.Service.PageForm
import FleetOps.Proofs.Text.Template

/-! What stands in the slots of a page. The tags of a page are those of a template, whatever a node
reports and answers, and every slot is read back as the text that was meant for it.
-/

namespace FleetOps.Service.Page

open FleetOps.Markup

-----------------------------------------------------------------------------------------
-- The template
-----------------------------------------------------------------------------------------

/-- Which of the parts that a page may lack are shown on it. -/
structure Shown where
  customId : Bool
  agent : Bool
  globalIp : Bool
  response : Bool

/-- The places of a page that are filled in. -/
inductive Slot where
  | title
  | heading
  | id
  | customId
  | agent
  | globalIp
  | tunnel
  | action
  | user
  | response

/-- The pieces of a row of the table. -/
def rowPieces (name : String) (slot : Slot) : List (Piece Slot) :=
  [.fixed ("\n<tr><th>" ++ name ++ "</th><td>"), .slot slot, .fixed "</td></tr>"]

/-- The pieces of a row that may be missing. -/
def optionalPieces (shown : Bool) (name : String) (slot : Slot) : List (Piece Slot) :=
  if shown then rowPieces name slot else []

/-- The pieces of the head of a page and of the row of the id. -/
def headerPieces : List (Piece Slot) :=
  [
    .fixed "<!DOCTYPE html>\n<html>\n<head><meta charset=\"utf-8\"><title>",
    .slot .title,
    .fixed "</title></head>\n<body>\n<h1>",
    .slot .heading,
    .fixed "</h1>\n<table>"
  ]
    ++ rowPieces "ID" .id

/-- The pieces of the row of the tunnel and of the end of the table. -/
def tunnelPieces : List (Piece Slot) := rowPieces "SSH" .tunnel ++ [.fixed "\n</table>"]

/-- The pieces of the form up to its first field. -/
def formPieces : List (Piece Slot) :=
  [
    .fixed "\n<form method=\"post\" action=\"/nodes/",
    .slot .action,
    .fixed "/command\">\n<input name=\"user\" placeholder=\"user\" value=\"",
    .slot .user,
    .fixed "\">"
  ]

/-- The pieces of the other fields of the form. -/
def fieldPieces : List (Piece Slot) :=
  [
    .fixed "\n<input name=\"password\" type=\"password\" placeholder=\"password\">",
    .fixed "\n<textarea name=\"key\" placeholder=\"private key\"></textarea>",
    .fixed "\n<input name=\"command\" placeholder=\"command\">",
    .fixed "\n<input name=\"timeout\" placeholder=\"timeout (s)\">",
    .fixed "\n<button type=\"submit\">Run</button>\n</form>"
  ]

/-- The pieces of the output of a command. -/
def outputPieces : List (Piece Slot) :=
  [.fixed "\n<pre id=\"response\">", .slot .response, .fixed "</pre>"]

/-- The pieces of the end of a page. -/
def closingPieces : List (Piece Slot) := [.fixed "\n</body>\n</html>"]

/-- The pieces of a page. -/
def template (shown : Shown) : List (Piece Slot) :=
  headerPieces
    ++ optionalPieces shown.customId "Custom ID" .customId
    ++ optionalPieces shown.agent "Agent" .agent
    ++ optionalPieces shown.globalIp "Global IP" .globalIp
    ++ tunnelPieces
    ++ formPieces
    ++ fieldPieces
    ++ (if shown.response then outputPieces else [])
    ++ closingPieces

-----------------------------------------------------------------------------------------
-- The tags
-----------------------------------------------------------------------------------------

section

variable (page : Page)

/-- What is shown on a page. -/
def shown : Shown :=
  {
    customId := !page.report.customId.isEmpty
    agent := !page.report.agentVersion.isEmpty
    globalIp := !page.report.globalIp.isEmpty
    response := page.response.isSome
  }

/-- The text that is meant for a slot. -/
def meant : Slot → String
  | .title => page.title
  | .heading => page.title
  | .id => page.report.id
  | .customId => page.report.customId
  | .agent => page.report.agentVersion
  | .globalIp => page.report.globalIp
  | .tunnel =>
      match page.report.tunnelPort with
      | some port => page.report.relayHost ++ ":" ++ toString port.toNat
      | none => "not connected"
  | .action => page.report.id
  | .user => page.user
  | .response => page.response.getD ""

/-- What is written in a slot. -/
def written : Slot → List Char
  | .tunnel => page.tunnel.toList
  | slot => escapeChars (page.meant slot).toList

end

end FleetOps.Service.Page
