import FleetOps.Proofs.Service.CheckedIn
import FleetOps.Proofs.Service.Route
import FleetOps.Proofs.Text.Markup

/-! Where the form on the page of a node leads. The id is escaped for the page but not for the path,
so the form leads to the node exactly if the id stands for itself as a piece of a path.
-/

namespace FleetOps.Service

open FleetOps.Markup

namespace Page

-----------------------------------------------------------------------------------------
-- Tags, line by line
-----------------------------------------------------------------------------------------

/-- The tags that begin in a line end in it. -/
def Holds (line : String) (tags : List Tag) : Prop := Place.text.scan line.toList = (tags, .text)

/-- The tags of a line come before those of the lines after it. -/
theorem tags_join_cons {line : String} {own : List Tag} (holds : Holds line own)
    (rest : List String)
    : tags (join (line :: rest)) = own ++ tags (join rest) := by
  unfold Holds at holds
  unfold tags
  cases rest with
  | nil =>
      change (Place.text.scan line.toList).1 = own ++ []
      rw [holds, List.append_nil]
  | cons next rest =>
      have feed : Place.text.scan "\n".toList = ([], .text) := rfl
      rw [join]
      · simp only [String.toList_append, Place.scan_append, holds, feed, List.append_nil]
      · exact fun same => List.cons_ne_nil _ _ same

/-- A line has no form in it. -/
def IsFormless (line : String) : Prop :=
  ∃ own, Holds line own ∧ ∀ tag ∈ own, tag.name ≠ "form".toList

/-- A slot without the character that begins tags may stand between tags. -/
theorem IsFormless.around {before slot after : String} (opens : IsFormless before)
    (plain : '<' ∉ slot.toList) (closes : IsFormless after)
    : IsFormless (before ++ slot ++ after) := by
  obtain ⟨opening, opens, first⟩ := opens
  obtain ⟨closing, closes, last⟩ := closes
  refine ⟨opening ++ closing, ?_, List.forall_mem_append.mpr ⟨first, last⟩⟩
  unfold Holds at *
  simp only [String.toList_append, Place.scan_append, opens, Place.scan_text plain, closes,
    List.append_nil]

/-- The first form of a text. -/
def form? (text : String) : Option Tag := (tags text).find? (·.name == "form".toList)

/-- Lines without a form go before the first one, by induction over them. -/
theorem form?_join {before : List String} {line : String} {tag : Tag}
    (formless : ∀ line ∈ before, IsFormless line) (holds : Holds line [tag])
    (named : tag.name = "form".toList) (rest : List String)
    : form? (join (before ++ line :: rest)) = some tag := by
  unfold form?
  induction before with
  | nil =>
      rw [List.nil_append, tags_join_cons holds, List.singleton_append,
        List.find?_cons_of_pos (by simpa using named)]
  | cons first before ih =>
      obtain ⟨own, firstHolds, others⟩ := formless first List.mem_cons_self
      have none : own.find? (·.name == "form".toList) = none := by simpa using others
      rw [List.cons_append, tags_join_cons firstHolds, List.find?_append, none, Option.none_or]
      exact ih fun line among => formless line (.tail first among)

-----------------------------------------------------------------------------------------
-- The lines of a page
-----------------------------------------------------------------------------------------

section

variable (page : Page)

/-- No tag can begin in escaped text. -/
theorem escape_plain (s : String) : '<' ∉ (escape s).toList := by
  rw [escape, String.toList_ofList]
  exact escapeChars_avoids (by decide) s.toList

/-- No tag can begin in the line for the tunnel. -/
theorem tunnel_plain : '<' ∉ page.tunnel.toList := by
  unfold tunnel
  cases page.report.tunnelPort with
  | none =>
      change '<' ∉ "not connected".toList
      decide
  | some port =>
      have digits : '<' ∉ (toString port.toNat).toList := by
        intro among
        have among : '<' ∈ Nat.toDigits 10 port.toNat := by
          simpa [Nat.toString_eq_ofList_toDigits] using among
        exact absurd (Nat.isDigit_of_mem_toDigits (by decide) (by decide) among) (by decide)
      simp only [String.toList_append, List.mem_append, not_or]
      exact ⟨⟨escape_plain _, by decide⟩, digits⟩

/-- What comes before the form on a page. -/
def beforeForm : List String :=
  page.header
    ++ row "Custom ID" page.report.customId
    ++ row "Agent" page.report.agentVersion
    ++ row "Global IP" page.report.globalIp
    ++ ["<tr><th>SSH</th><td>" ++ page.tunnel ++ "</td></tr>", "</table>"]

/-- A slot between pieces without a form leaves them without one. -/
theorem slot_isFormless {before slot after : String} (opens : IsFormless before)
    (closes : IsFormless after)
    : IsFormless (before ++ escape slot ++ after) :=
  opens.around (escape_plain slot) closes

/-- No row of the table has a form. -/
theorem row_isFormless {name value : String}
    (opens : IsFormless ("<tr><th>" ++ name ++ "</th><td>"))
    : ∀ line ∈ row name value, IsFormless line := by
  unfold row
  split
  · exact nofun
  · rintro line (_ | ⟨_, ⟨⟩⟩)
    exact slot_isFormless opens ⟨_, rfl, by decide⟩

/-- No line before the form has one in it, whatever stands in its slot. -/
theorem beforeForm_isFormless : ∀ line ∈ page.beforeForm, IsFormless line := by
  simp only [beforeForm, List.forall_mem_append]
  refine ⟨⟨⟨⟨?header, ?customId⟩, ?agent⟩, ?globalIp⟩, ?tunnel⟩
  case header =>
    simp only [header, List.forall_mem_cons]
    refine ⟨⟨_, rfl, by decide⟩, ⟨_, rfl, by decide⟩, ?_, ⟨_, rfl, by decide⟩, ?_,
      ⟨_, rfl, by decide⟩, ?_, nofun⟩
    · exact slot_isFormless ⟨_, rfl, by decide⟩ ⟨_, rfl, by decide⟩
    · exact slot_isFormless ⟨_, rfl, by decide⟩ ⟨_, rfl, by decide⟩
    · exact slot_isFormless ⟨_, rfl, by decide⟩ ⟨_, rfl, by decide⟩
  case customId => exact row_isFormless ⟨_, rfl, by decide⟩
  case agent => exact row_isFormless ⟨_, rfl, by decide⟩
  case globalIp => exact row_isFormless ⟨_, rfl, by decide⟩
  case tunnel =>
    simp only [List.forall_mem_cons]
    refine ⟨?_, ⟨_, rfl, by decide⟩, nofun⟩
    exact .around ⟨_, rfl, by decide⟩ page.tunnel_plain ⟨_, rfl, by decide⟩

/-- The tag of the form. -/
def formTag : Tag :=
  {
    name := "form".toList
    attributes :=
      [
        ("method".toList, "post".toList),
        ("action".toList, "/nodes/".toList ++ escapeChars page.report.id.toList ++ "/command".toList)
      ]
  }

/-- The tag of the form has the path to the commands of the node. -/
theorem form_holds
    : Holds ("<form method=\"post\" action=\"/nodes/" ++ escape page.report.id ++ "/command\">")
        [page.formTag] := by
  have quote : '"' ∉ escapeChars page.report.id.toList := escapeChars_avoids (by decide) _
  have opens : Place.text.scan "<form method=\"post\" action=\"/nodes/".toList
      = ([], .quoted ⟨"form".toList, [("method".toList, "post".toList)]⟩ "action".toList
          "/nodes/".toList) := rfl
  have closes : "/command\">".toList = "/command".toList ++ "\">".toList := rfl
  unfold Holds
  simp only [String.toList_append, closes, Place.scan_append, opens, escape, String.toList_ofList,
    Place.scan_quoted quote, Place.scan_quoted (show '"' ∉ "/command".toList by decide)]
  rfl

/-- The first form of a page is the one for commands on its node. -/
theorem form?_text : form? page.text = some page.formTag := by
  have lines : page.lines
      = page.beforeForm
        ++ ("<form method=\"post\" action=\"/nodes/" ++ escape page.report.id ++ "/command\">")
          :: (page.form.tail ++ page.output ++ ["</body>", "</html>"]) := by
    simp [Page.lines, beforeForm, form]
  rw [text, lines]
  exact form?_join page.beforeForm_isFormless page.form_holds rfl _

/-- The action of the form names the node by its id as it is. -/
theorem formAction?_text
    : (form? page.text).bind (·.attribute? "action")
      = some ("/nodes/" ++ page.report.id ++ "/command") := by
  have value : page.formTag.attributes.lookup "action".toList
      = some ("/nodes/".toList ++ escapeChars page.report.id.toList ++ "/command".toList) := rfl
  have opens (rest : List Char)
      : unescapeChars ("/nodes/".toList ++ rest) = "/nodes/".toList ++ unescapeChars rest := rfl
  have closes : unescapeChars "/command".toList = "/command".toList := rfl
  rw [form?_text, Option.bind_some, Tag.attribute?, value, Option.map_some, List.append_assoc,
    opens, unescapeChars_escapeChars, closes]
  simp only [String.ofList_append, String.ofList_toList, String.append_assoc]

end

end Page

/-- The form on the page of a node leads to the commands of this node exactly if the id stands for
itself as a piece of a path. If it does, and there are no blanks around it, then whatever is sent
there runs a command on this node or none.
-/
theorem pageForm_leads (page : Page)
    : ∃ action,
        (Page.form? page.text).bind (·.attribute? "action") = some action
        ∧ (Route.LeadsToCommands action page.report.id
          ↔ Route.IsPlainPiece (Utf8.encode page.report.id))
        ∧ (Route.IsPlainPiece (Utf8.encode page.report.id)
          → Text.isBlankText page.report.id = false
          → Text.trim page.report.id = page.report.id
          → ∀ context request front,
              request.uri.path = Route.pathOf action
              → request.method = "POST"
              → match CommandCheck.firstFailure? context request page.report.id front with
                | some failure =>
                    (handle context request front).response = failureResponse failure
                    ∧ (handle context request front).run = none
                | none =>
                    ∃ prepared : Prepared,
                      prepared.Follows context request page.report.id front
                      ∧ (handle context request front).run = some (prepared.run context)) := by
  have leads := Route.leadsToCommands_iff page.report.id
  refine ⟨_, page.formAction?_text, leads, fun plain named trimmed => ?_⟩
  intro context request front path posts
  obtain ⟨piece, routed, decoded⟩ := leads.mpr plain
  have names : Names request .command page.report.id := ⟨piece, path ▸ routed, decoded⟩
  have unblank : (Text.trim page.report.id).isEmpty = false :=
    (Text.trim_isEmpty page.report.id).trans named
  have runs := @handle_runs context request front page.report.id unblank names posts
  rw [trimmed] at runs
  exact runs

/-- The form on the page of a node leads to its commands, and one that is sent there is run. -/
theorem uptimeForm_leads
    : let page := Page.ofReport (.blank "n1")
      ∃ action,
        (Page.form? page.text).bind (·.attribute? "action") = some action
        ∧ Route.LeadsToCommands action "n1"
        ∧ uptimeRequest.uri.path = Route.pathOf action
        ∧ ∃ prepared : Prepared,
            prepared.Follows openContext uptimeRequest "n1" oneNodeStore
            ∧ (handle openContext uptimeRequest oneNodeStore).run
              = some (prepared.run openContext) := by
  intro page
  obtain ⟨action, acts, leads, runs⟩ := pageForm_leads page
  have same : action = "/nodes/n1/command" := by
    rw [page.formAction?_text] at acts
    exact (Option.some.inj acts).symm
  have plain : Route.IsPlainPiece (Utf8.encode "n1") := {
    slash := by decide
    question := by decide
    hash := by decide
    escape := Percent.not_hasEscape_of_decode_eq rfl
  }
  have path : uptimeRequest.uri.path = Route.pathOf action := by
    rw [same]
    decide +kernel
  have ran := runs plain (by decide +kernel) (by decide +kernel) openContext uptimeRequest
    oneNodeStore path rfl
  have passed : CommandCheck.firstFailure? openContext uptimeRequest page.report.id oneNodeStore
      = none :=
    Option.isNone_iff_eq_none.mp (by decide +kernel)
  simp only [passed] at ran
  exact ⟨action, acts, leads.mpr plain, path, ran⟩

/-- An id with an escape in it: the form on the page of the node leads to the commands of another
node, and not to its own.
-/
theorem pageForm_strays
    : let page := Page.ofReport (.blank "n%31")
      ∃ action,
        (Page.form? page.text).bind (·.attribute? "action") = some action
        ∧ Route.LeadsToCommands action "n1"
        ∧ ¬ Route.LeadsToCommands action page.report.id := by
  have leads : Route.LeadsToCommands ("/nodes/" ++ "n%31" ++ "/command") "n1" :=
    ⟨Utf8.encode "n%31", rfl, by decide +kernel⟩
  refine ⟨_, (Page.ofReport (.blank "n%31")).formAction?_text, leads, fun own => ?_⟩
  exact absurd (leads.unique own) (by decide)

end FleetOps.Service
