import FleetOps.Proofs.Credentials
import FleetOps.Proofs.Service.Listings
import FleetOps.Proofs.Store.Pages
import FleetOps.Proofs.Text.Form

/-! Nodes by their custom ids. Every custom id can be put in a query, but the query is taken without
the blanks around it, and reports are filed with theirs.
-/

namespace FleetOps.Service

-----------------------------------------------------------------------------------------
-- Queries
-----------------------------------------------------------------------------------------

namespace ListQuery

/-- Every custom id can be asked for by itself. -/
theorem exists_ofCustomId (customId : String)
    : ∃ bytes,
        ∀ request : Http.Request,
          request.uri.query = some bytes
          → ofRequest request = .ok { everything with customId := customId } := by
  refine ⟨Percent.escape (Utf8.encode "custom-id") ++ 61 :: Percent.escape (Utf8.encode customId),
    fun request asked => ?_⟩
  rw [ofRequest, asked, Option.getD_some, Form.pairs_escape]
  rfl

/-- What a query shows of the latest reports in its window. With a blank custom id it shows a page
of them, and with any other those that have the custom id without the blanks around it. So the
reports with a custom id are what is shown for it if there are no such blanks, and if there are some
they are shown for no query at all.
-/
structure Shows (query : ListQuery) (latest shown : List Report) : Prop where
  page
    : Text.isBlankText query.customId = true
      → shown = Memory.page query.skip query.limit latest
  trimmed
    : Text.isBlankText query.customId = false
      → shown = latest.filter (·.customId == Text.trim query.customId)
  asked
    : ∀ report ∈ latest,
        Text.isBlankText report.customId = false
        → query.customId = report.customId
        → (report ∈ shown ↔ Text.trim report.customId = report.customId)
          ∧ (shown = latest.filter (·.customId == report.customId)
            ↔ Text.trim report.customId = report.customId)
  missed
    : Text.isBlankText query.customId = false
      → ∀ report ∈ shown, Text.trim report.customId = report.customId

/-- The reports that a query shows. -/
def pick (query : ListQuery) (latest : List Report) : List Report :=
  if Text.isBlankText query.customId then Memory.page query.skip query.limit latest
  else latest.filter (·.customId == Text.trim query.customId)

/-- What a query picks among the latest reports is what it shows. -/
theorem shows_pick (query : ListQuery) (latest : List Report)
    : query.Shows latest (query.pick latest) := by
  have trimmed (named : Text.isBlankText query.customId = false)
      : query.pick latest = latest.filter (·.customId == Text.trim query.customId) := by
    rw [pick, named, if_neg Bool.false_ne_true]
  have missed (named : Text.isBlankText query.customId = false)
      : ∀ report ∈ query.pick latest, Text.trim report.customId = report.customId := by
    intro report shown
    rw [trimmed named] at shown
    have same : report.customId = Text.trim query.customId :=
      beq_iff_eq.mp (List.mem_filter.mp shown).2
    rw [same, Text.trim_trim]
  refine ⟨fun blank => if_pos blank, trimmed, fun report among named same => ?_, missed⟩
  rw [← same] at named ⊢
  have whole (plain : Text.trim query.customId = query.customId)
      : query.pick latest = latest.filter (·.customId == query.customId) := by
    rw [trimmed named, plain]
  have own : report ∈ latest.filter (·.customId == query.customId) :=
    List.mem_filter.mpr ⟨among, beq_iff_eq.mpr same.symm⟩
  refine ⟨⟨fun shown => ?_, fun plain => whole plain ▸ own⟩, fun shown => ?_, whole⟩
  · rw [same]
    exact missed named report shown
  · rw [same]
    exact missed named report (shown ▸ own)

/-- A query asks for what it shows of the latest reports of its window. -/
theorem reportsIn_eq (query : ListQuery) (memory : Memory) (now : Int)
    : query.reportsIn memory now
      = (query.pick (memory.latest query.window now fun _ => true)).map
          (·.project (Projection.ofName query.projection)) := by
  rw [reportsIn, Text.trim_isEmpty, pick]
  split
  · rfl
  · rw [← memory.latest_filter]
    rfl

/-- Without a number of minutes a query is for reports of any time. -/
theorem window_of_blank {query : ListQuery} (blank : Text.isBlankText query.minutes = true)
    : query.window = 0 := by
  have empty : Text.trim query.minutes = "" :=
    String.isEmpty_iff.mp ((Text.trim_isEmpty query.minutes).trans blank)
  rw [window, empty]
  rfl

end ListQuery

-----------------------------------------------------------------------------------------
-- Listings
-----------------------------------------------------------------------------------------

/-- Every custom id can be put in a query. An administrator's query for nodes is answered with what
it shows of the latest reports, which are those of any time if it has no minutes: for a custom id
those that have it exactly if there are no blanks around it.
-/
theorem customIds_listed {front : Front} (reachable : front.Reachable) (works : front.Works)
    : (∀ customId,
        ∃ bytes,
          ∀ request : Http.Request,
            request.uri.query = some bytes
            → ListQuery.ofRequest request
              = .ok { ListQuery.everything with customId := customId })
      ∧ ∀ (context : Context) (request : Http.Request) (query : ListQuery),
          request.method = "GET"
          → Route.ofPath? request.uri.path = some .nodes
          → ListQuery.ofRequest request = .ok query
          → PresentsKey request true front
          → (Text.isBlankText query.minutes = true → query.window = 0)
            ∧ ∃ latest shown,
                front.ShowsLatest query.window context.now latest
                ∧ query.Shows latest shown
                ∧ (handle context request front).response
                  = jsonResponse 200
                      (reportList
                        (shown.map (·.project (Projection.ofName query.projection)))) := by
  refine ⟨ListQuery.exists_ofCustomId, ?_⟩
  intro context request query gets routed parsed presents
  have latest := works.showsLatest reachable.named.filed.reports query.window context.now
  refine ⟨ListQuery.window_of_blank, _, _, latest, query.shows_pick _, ?_⟩
  rw [← query.reportsIn_eq]
  have lists
      : Lists request front (query.reportsIn front.memory context.now)
          (handle context request front).response :=
    handle_listsNodes gets routed parsed
  rcases lists with listed | ⟨-, broken⟩
  · exact listed
  · exact absurd ⟨works, presents⟩ broken

/-- An administrator's query for nodes. -/
def queryRequest (query : String) : Http.Request :=
  {
    keyRequest "GET" "/nodes" "" with
    uri := { path := Utf8.encode "/nodes", query := some (Utf8.encode query) }
  }

/-- The report of a node in a shop. -/
def shopReport : Report := { Report.blank "n1" with customId := "shop" }

/-- Of two nodes the one in the shop is listed for it. -/
theorem shopReport_isListed
    : let front := Front.plain (oneKeyContents true [] [shopReport, .blank "n2"])
      front.Reachable
      ∧ front.Works
      ∧ ∃ shown : List Report,
          shopReport ∈ shown
          ∧ (∀ report ∈ shown, report.customId = "shop")
          ∧ (handle openContext (queryRequest "custom-id=shop") front).response
            = jsonResponse 200 (reportList (shown.map (·.project .all))) := by
  intro front
  have reachable : front.Reachable := .plain (.seed .empty _)
  have works : front.Works := Front.plain_works _
  obtain ⟨-, latest, shown, shows, picks, response⟩ :=
    (customIds_listed reachable works).2 openContext (queryRequest "custom-id=shop")
      { ListQuery.everything with customId := "shop" } rfl rfl rfl ⟨"k", rfl, rfl⟩
  have filed : (Front.getReport shopReport.id front).1 = .ok (some shopReport) := rfl
  have among : shopReport ∈ latest := (shows.mem_iff shopReport).mpr ⟨filed, .inl rfl⟩
  have plain : Text.trim shopReport.customId = shopReport.customId := by decide +kernel
  obtain ⟨listed, whole⟩ := picks.asked shopReport among rfl rfl
  refine ⟨reachable, works, shown, listed.mpr plain, ?_, response⟩
  intro report held
  rw [whole.mpr plain] at held
  exact beq_iff_eq.mp (List.mem_filter.mp held).2

/-- The text of a response. -/
def textOf? (response : Http.Response) : Option String :=
  match response.body with
  | .bytes content => Utf8.decode? content
  | .zeros _ => none

/-- A node whose custom id begins with a blank checks in. Nothing is listed for its custom id,
though the node is among all that are listed.
-/
theorem blankedCustomId_isNotListed
    : let checkIn :=
        keyRequest "POST" "/report" "\x7b\"id\":\"n1\",\"custom_id\":\" shop\"\x7d"
      let byCustomId := queryRequest "custom-id=%20shop"
      let served := handle openContext checkIn (.plain (oneKeyContents true [] []))
      let listing (request : Http.Request) := (handle openContext request served.front).response
      (ListQuery.ofRequest byCustomId).toOption.map (·.customId) = some " shop"
      ∧ served.response.status = 201
      ∧ (served.front.memory.reports.get? "n1").map (·.customId) = some " shop"
      ∧ (listing byCustomId).status = 200
      ∧ textOf? (listing byCustomId) = some "[]"
      ∧ textOf? (listing (queryRequest ""))
        = some
            ("[\x7b\"id\":\"n1\",\"custom_id\":\" shop\",\"ssh_remote_port\":0,"
              ++ "\"server_time\":0,\"api_key\":\"k\"\x7d]") := by
  decide +kernel

end FleetOps.Service
