import FleetOps.Proofs.Fleet.RoundTrip

/-! What listings show of reports. A projection keeps the members that it selects, as they are, but
a listing of identities also shows of every node a port that is zero.
-/

namespace FleetOps

open Json

-----------------------------------------------------------------------------------------
-- Selections
-----------------------------------------------------------------------------------------

namespace Projection

/-- The names that a projection selects, of all that a report may have. -/
def Selects : Projection → String → Prop
  | all, _ => True
  | identity, name => name ∈ ["id", "custom_id", "server_time", "success"]
  | listView, name =>
      name ∈ ["id", "custom_id", "hostname", "agent_version", "ssh_server_host",
        "ssh_remote_port", "ip_global", "host_global", "server_time", "ip4_local", "ip6_local",
        "seq", "success", "errors"]

instance (name : String) : (projection : Projection) → Decidable (projection.Selects name)
  | all => inferInstanceAs (Decidable True)
  | identity => inferInstanceAs (Decidable (name ∈ _))
  | listView => inferInstanceAs (Decidable (name ∈ _))

/-- The members that are shown of others are those that a projection selects: each is one of the
others, and their names are all that the others have and the projection selects.
-/
structure IsSelection (projection : Projection) (whole shown : List (String × Json.Value))
    : Prop where
  held : ∀ member ∈ shown, member ∈ whole
  names
    : ∀ name, name ∈ shown.map (·.1) ↔ name ∈ whole.map (·.1) ∧ projection.Selects name

/-- The telemetry that is kept is what is selected without being declared. -/
theorem mem_telemetryNames_iff {projection : Projection} (fewer : projection ≠ .all)
    (name : String)
    : name ∈ projection.telemetryNames
      ↔ projection.Selects name ∧ name ∉ Report.fieldNames := by
  constructor
  · revert name
    cases projection with
    | all => exact absurd rfl fewer
    | identity | listView => decide
  · intro both
    obtain ⟨selected, undeclared⟩ := both
    revert name
    cases projection with
    | all => exact absurd rfl fewer
    | identity | listView =>
        simp only [Selects]
        decide

end Projection

namespace Report

variable {report : Report} {projection : Projection} {member : String × Json.Value}

-----------------------------------------------------------------------------------------
-- The members that are shown
-----------------------------------------------------------------------------------------

/-- A declared field as a projection shows it, with its default if it is not selected. -/
def shownField (projection : Projection) (field : String × Json.Value) : String × Json.Value :=
  if projection.Selects field.1 then field
  else
    match field.2 with
    | .text _ => (field.1, .text "")
    | _ => (field.1, .number (.int 0))

/-- A projection keeps the declared fields in their places, and shows or hides each. -/
theorem declared_project (report : Report) (projection : Projection)
    : (report.project projection).declared = report.declared.map (shownField projection) := by
  cases projection with
  | all =>
      have same : shownField .all = fun field => field := funext fun field => if_pos trivial
      rw [same, List.map_id']
      rfl
  | identity | listView => simp [project, shownField, Projection.Selects, declared, blank]

/-- The port of a node without a tunnel, as a member. -/
def noPort : String × Json.Value := ("ssh_remote_port", .number (.int 0))

/-- Of the fields that are not selected only the port is written, among the identities. -/
theorem shownField_isWritten
    : ∀ field ∈ report.declared,
        ¬ projection.Selects field.1
        → isWritten (shownField projection field) = true
        → projection = .identity ∧ shownField projection field = noPort := by
  cases projection <;>
    simp [declared, Projection.Selects, shownField, isWritten, alwaysWritten,
      Json.Value.isDefault, noPort]

/-- A member of a report is a declared field that is written, or telemetry. -/
theorem mem_members_iff
    : member ∈ report.members
      ↔ member ∈ report.declared ∧ isWritten member = true
        ∨ member ∈ report.telemetry.pairs := by
  rw [members_eq, List.mem_append, List.mem_filter]

/-- A projection writes the declared fields that it selects and, on the identity, a port of zero. -/
theorem mem_declared_project_iff
    : member ∈ (report.project projection).declared ∧ isWritten member = true
      ↔ projection.Selects member.1 ∧ member ∈ report.declared ∧ isWritten member = true
        ∨ projection = .identity ∧ member = noPort := by
  rw [declared_project]
  constructor
  · intro shown
    obtain ⟨among, written⟩ := shown
    obtain ⟨field, declared, rfl⟩ := List.mem_map.mp among
    by_cases selected : projection.Selects field.1
    · rw [shownField, if_pos selected] at written ⊢
      exact .inl ⟨selected, declared, written⟩
    · exact .inr (shownField_isWritten field declared selected written)
  · intro shown
    rcases shown with ⟨selected, declared, written⟩ | ⟨rfl, rfl⟩
    · exact ⟨List.mem_map.mpr ⟨member, declared, if_pos selected⟩, written⟩
    · rw [← declared_project]
      exact ⟨by simp [declared, project, blank, noPort], rfl⟩

/-- What a projection shows: what it selects of the declared fields that are written and of the
other telemetry, and of identities a port as well.
-/
theorem mem_members_project_iff (fewer : projection ≠ .all)
    : member ∈ (report.project projection).members
      ↔ projection.Selects member.1
          ∧ (member ∈ report.declared ∧ isWritten member = true
            ∨ member ∈ report.telemetry.pairs ∧ member.1 ∉ fieldNames)
        ∨ projection = .identity ∧ member = noPort := by
  have telemetry
      : member ∈ (report.project projection).telemetry.pairs
        ↔ member ∈ report.telemetry.pairs ∧ member.1 ∈ projection.telemetryNames := by
    cases projection with
    | all => exact absurd rfl fewer
    | identity | listView => simp [project, keepTelemetry, Table.filter]
  rw [mem_members_iff, mem_declared_project_iff, telemetry,
    Projection.mem_telemetryNames_iff fewer]
  tauto

-----------------------------------------------------------------------------------------
-- Exact selections
-----------------------------------------------------------------------------------------

/-- Telemetry is under the name of a declared field that is not written. -/
def StandsIn (report : Report) (name : String) : Prop :=
  name ∈ report.telemetry.names
  ∧ name ∈ fieldNames
  ∧ name ∉ (report.declared.filter isWritten).map (·.1)

/-- What is selected of the declared fields and of other telemetry is all that is selected, unless
that includes telemetry that stands in for a field.
-/
theorem isSelection_iff {shown : List (String × Json.Value)}
    (exactly
      : ∀ member,
          member ∈ shown
          ↔ projection.Selects member.1
            ∧ (member ∈ report.declared ∧ isWritten member = true
              ∨ member ∈ report.telemetry.pairs ∧ member.1 ∉ fieldNames))
    : projection.IsSelection report.members shown
      ↔ ∀ name, report.StandsIn name → ¬ projection.Selects name := by
  constructor
  · intro selection name standsIn selected
    obtain ⟨named, known, unwritten⟩ := standsIn
    obtain ⟨pair, kept, rfl⟩ := List.mem_map.mp named
    have whole : pair.1 ∈ report.members.map (·.1) :=
      List.mem_map_of_mem (mem_members_iff.mpr (.inr kept))
    obtain ⟨member, among, same⟩ := List.mem_map.mp ((selection.names pair.1).mpr ⟨whole, selected⟩)
    rcases ((exactly member).mp among).2 with ⟨declared, written⟩ | ⟨-, undeclared⟩
    · exact unwritten (List.mem_map.mpr ⟨member, List.mem_filter.mpr ⟨declared, written⟩, same⟩)
    · exact undeclared (same ▸ known)
  · intro none
    have held : ∀ member ∈ shown, member ∈ report.members := by
      intro member among
      rcases ((exactly member).mp among).2 with declared | ⟨kept, -⟩
      · exact mem_members_iff.mpr (.inl declared)
      · exact mem_members_iff.mpr (.inr kept)
    refine ⟨held, fun name => ⟨?_, ?_⟩⟩
    · intro named
      obtain ⟨member, among, rfl⟩ := List.mem_map.mp named
      exact ⟨List.mem_map_of_mem (held member among), ((exactly member).mp among).1⟩
    · intro both
      obtain ⟨named, selected⟩ := both
      obtain ⟨member, among, rfl⟩ := List.mem_map.mp named
      rcases mem_members_iff.mp among with declared | kept
      · exact List.mem_map_of_mem ((exactly member).mpr ⟨selected, .inl declared⟩)
      · by_cases known : member.1 ∈ fieldNames
        · have written : member.1 ∈ (report.declared.filter isWritten).map (·.1) := by
            by_contra unwritten
            exact none member.1 ⟨List.mem_map_of_mem kept, known, unwritten⟩ selected
          obtain ⟨field, among, same⟩ := List.mem_map.mp written
          rw [← same] at selected ⊢
          have declared := List.mem_filter.mp among
          exact List.mem_map_of_mem ((exactly field).mpr ⟨selected, .inl declared⟩)
        · exact List.mem_map_of_mem ((exactly member).mpr ⟨selected, .inr ⟨kept, known⟩⟩)

/-- No telemetry of a report that was read stands in for a field. -/
theorem IsAsRead.not_standsIn (asRead : report.IsAsRead) (name : String)
    : ¬ report.StandsIn name := by
  intro standsIn
  exact asRead.fits.undeclared name standsIn.1 standsIn.2.1

/-- The projection on everything is a selection of the members. -/
theorem all_isSelection (report : Report)
    : Projection.IsSelection .all report.members (report.project .all).members where
  held := fun _ among => among
  names := fun _ => ⟨fun named => ⟨named, trivial⟩, fun both => both.1⟩

/-- The list view is a selection unless the report has a field that stands in for another. -/
theorem listView_isSelection_iff (report : Report)
    : Projection.IsSelection .listView report.members (report.project .listView).members
      ↔ ∀ name, report.StandsIn name → ¬ Projection.Selects .listView name := by
  refine isSelection_iff fun member => ?_
  rw [mem_members_project_iff (by decide)]
  exact or_iff_left fun other => nomatch other.1

/-- What is shown with identities, but for the port. -/
def besidePort (report : Report) : List (String × Json.Value) :=
  (report.project .identity).members.filter (·.1 != noPort.1)

/-- Beside the port the projection on the identity writes what it selects. -/
theorem mem_besidePort_iff
    : member ∈ report.besidePort
      ↔ Projection.Selects .identity member.1
        ∧ (member ∈ report.declared ∧ isWritten member = true
          ∨ member ∈ report.telemetry.pairs ∧ member.1 ∉ fieldNames) := by
  rw [besidePort, List.mem_filter, mem_members_project_iff (by decide), bne_iff_ne]
  constructor
  · intro both
    rcases both with ⟨selected | ⟨-, rfl⟩, other⟩
    · exact selected
    · exact absurd rfl other
  · intro selected
    refine ⟨.inl selected, fun port => ?_⟩
    rw [port] at selected
    exact absurd selected.1 (by decide)

/-- With every identity the port is shown, and the only other members are beside it. -/
theorem mem_identity_iff
    : member ∈ (report.project .identity).members
      ↔ member = noPort ∨ member ∈ report.besidePort := by
  rw [mem_members_project_iff (by decide), mem_besidePort_iff, or_comm]
  exact or_congr_left (and_iff_right rfl)

/-- The port that is shown with identities is not selected. -/
theorem identity_not_isSelection (report : Report)
    : ¬ Projection.IsSelection .identity report.members (report.project .identity).members := by
  intro selection
  have shown : noPort ∈ (report.project .identity).members := mem_identity_iff.mpr (.inl rfl)
  have selected := ((selection.names noPort.1).mp (List.mem_map_of_mem shown)).2
  exact absurd selected (by decide)

/-- All fields are shown exactly, and those of the list view are, unless they include telemetry that
stands in for a field, as none does in a report that was read. Identities are not: with each comes a
port that is zero, and what is shown beside it is the selection.
-/
theorem project_isSelection_iff (report : Report)
    : (∀ projection : Projection,
        projection.IsSelection report.members (report.project projection).members
        ↔ projection = .all
          ∨ projection = .listView
            ∧ ∀ name, report.StandsIn name → ¬ projection.Selects name)
      ∧ (∀ member,
          member ∈ (report.project .identity).members
          ↔ member = noPort ∨ member ∈ report.besidePort)
      ∧ (Projection.IsSelection .identity report.members report.besidePort
        ↔ ∀ name, report.StandsIn name → ¬ Projection.Selects .identity name)
      ∧ (report.IsAsRead → ∀ name, ¬ report.StandsIn name) := by
  refine ⟨?_, fun member => mem_identity_iff, isSelection_iff fun member => mem_besidePort_iff,
    IsAsRead.not_standsIn⟩
  intro projection
  cases projection with
  | all => simp [all_isSelection]
  | identity => simp [identity_not_isSelection]
  | listView => simp [listView_isSelection_iff]

/-- A node with a tunnel. -/
def tunneledReport : Report :=
  {
    blank "aa" with
    remotePort := 4022
    receivedAt := 1700000000
    telemetry := Table.empty.insert "success" (.bool true)
  }

/-- Its identity is shown with a port that it does not have. -/
theorem tunneledReport_showsNoPort
    : noPort ∈ (tunneledReport.project .identity).members
      ∧ noPort ∉ tunneledReport.members
      ∧ ("ssh_remote_port", .number (.int 4022)) ∈ tunneledReport.members
      ∧ ¬ ∀ projection : Projection,
            projection.IsSelection tunneledReport.members
              (tunneledReport.project projection).members := by
  have members
      : tunneledReport.members
        = [("id", .text "aa"), ("ssh_remote_port", .number (.int 4022)),
            ("server_time", .number (.int 1700000000)), ("success", .bool true)] :=
    rfl
  refine ⟨mem_identity_iff.mpr (.inl rfl), by simp [members, noPort], by simp [members], ?_⟩
  intro selections
  exact identity_not_isSelection tunneledReport (selections .identity)

end Report

end FleetOps
