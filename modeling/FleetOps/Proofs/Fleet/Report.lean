import FleetOps.Fleet.Report
import FleetOps.Proofs.Json.Values

/-! Reports as JSON and back. A report is read from its own text as it was, and what was read from
an object is written as that object, apart from defaults that are left out or filled in.
-/

namespace FleetOps

open Json

-----------------------------------------------------------------------------------------
-- The declared fields
-----------------------------------------------------------------------------------------

/-- The value is what a field holds that is not there. -/
def Json.Value.isDefault : Json.Value → Bool
  | .text value => value.isEmpty
  | .number (.int value) => value == 0
  | _ => false

/-- The integers of 64 bits with a sign. -/
def FitsSigned (n : Int) : Prop := -0x8000000000000000 ≤ n ∧ n ≤ 0x7FFFFFFFFFFFFFFF

instance (n : Int) : Decidable (FitsSigned n) := inferInstanceAs (Decidable (_ ∧ _))

namespace Report

/-- The declared fields of a report in order, also those that are not written. -/
def declared (report : Report) : List (String × Json.Value) :=
  [("id", .text report.id), ("custom_id", .text report.customId),
    ("hostname", .text report.hostname), ("agent_version", .text report.agentVersion),
    ("ssh_server_host", .text report.relayHost),
    ("ssh_remote_port", .number (.int report.remotePort)),
    ("ssh_connect_time", .number (.int report.connectTime)),
    ("ip_global", .text report.globalIp), ("host_global", .text report.globalHost),
    ("server_time", .number (.int report.receivedAt)), ("api_key", .text report.apiKey)]

/-- The fields that are written whatever they hold. -/
def alwaysWritten : List String := ["id", "ssh_remote_port", "server_time"]

/-- Whether a declared field is written. -/
def isWritten (field : String × Json.Value) : Bool :=
  alwaysWritten.contains field.1 || !field.2.isDefault

/-- The declared fields have the names that are listed. -/
theorem declared_names (report : Report) : report.declared.map (·.1) = fieldNames := rfl

/-- What holds of all texts and of the numbers of a report holds of all declared fields. -/
theorem forall_declared {report : Report} {holds : Json.Value → Prop}
    (text : ∀ value, holds (.text value))
    (remotePort : holds (.number (.int report.remotePort)))
    (connectTime : holds (.number (.int report.connectTime)))
    (receivedAt : holds (.number (.int report.receivedAt)))
    : ∀ field ∈ report.declared, holds field.2 := by
  simp only [declared, List.forall_mem_cons]
  exact ⟨text _, text _, text _, text _, text _, remotePort, connectTime, text _, text _,
    receivedAt, text _, fun _ among => absurd among List.not_mem_nil⟩

/-- A report is written as its declared fields, as far as they are written, and its telemetry. -/
theorem members_eq (report : Report)
    : report.members = report.declared.filter isWritten ++ report.telemetry.pairs := by
  have apart {field next : String × Json.Value} {rest : List (String × Json.Value)}
      : (field :: next :: rest).filter isWritten
        = [field].filter isWritten ++ (next :: rest).filter isWritten :=
    List.filter_append [field] (next :: rest)
  have always {name : String} (value : Json.Value) (written : name ∈ alwaysWritten)
      : [(name, value)].filter isWritten = [(name, value)] := by
    simp [isWritten, written]
  have text {name : String} (value : String) (optional : name ∉ alwaysWritten)
      : [(name, .text value)].filter isWritten = textMember name value := by
    cases empty : value.isEmpty <;>
      simp [textMember, isWritten, Json.Value.isDefault, empty, optional]
  have time
      : [("ssh_connect_time", .number (.int report.connectTime))].filter isWritten
        = if report.connectTime == 0 then []
          else intMember "ssh_connect_time" report.connectTime := by
    cases zero : report.connectTime == 0 <;>
      simp [intMember, isWritten, Json.Value.isDefault, zero, alwaysWritten]
  simp only [declared, apart]
  rw [always _ (by decide), text _ (by decide), text _ (by decide), text _ (by decide),
    text _ (by decide), always _ (by decide), time, text _ (by decide), text _ (by decide),
    always _ (by decide), text _ (by decide)]
  simp only [members, intMember, List.append_assoc]

end Report

-----------------------------------------------------------------------------------------
-- Reading fields
-----------------------------------------------------------------------------------------

namespace Json

/-- A tree is read as a text exactly if it is that of one. -/
theorem Tree.text?_eq_some_iff {tree : Tree} {value : String}
    : tree.text? = some value ↔ tree = .ofValue (.text value) := by
  cases tree <;> simp [text?, ofValue]

/-- A tree is read as an integer exactly if it is that of one that fits. -/
theorem Tree.signed64?_eq_some_iff {tree : Tree} {n : Int}
    : tree.signed64? = some n ↔ tree = .ofValue (.number (.int n)) ∧ FitsSigned n := by
  cases tree with
  | number number =>
      cases number with
      | none => simp [signed64?, int?, ofValue]
      | some number =>
          cases number with
          | float bits => simp [signed64?, int?, ofValue]
          | int value =>
              simp only [signed64?, int?, ofValue, Bool.and_eq_true, decide_eq_true_eq, FitsSigned,
                Tree.number.injEq, Option.some.injEq, Number.int.injEq, Option.ite_none_right_eq_some]
              constructor
              · intro read
                obtain ⟨fits, rfl⟩ := read
                exact ⟨rfl, fits⟩
              · intro read
                obtain ⟨rfl, fits⟩ := read
                exact ⟨fits, rfl⟩
  | _ => simp [signed64?, int?, ofValue]

namespace Fields

variable {fields : Fields} {name : String}

/-- Nothing but one tree is found under the name. -/
def HasOnly (fields : Fields) (name : String) (tree : Tree) : Prop :=
  fields.filter (·.1 == name) = [(name, tree)]

/-- Nothing is found under the name. -/
def Lacks (fields : Fields) (name : String) : Prop := fields.filter (·.1 == name) = []

/-- A value is found under the name, or it is a default and nothing is. -/
def Tells (fields : Fields) (name : String) (value : Value) : Prop :=
  fields.HasOnly name (.ofValue value) ∨ fields.Lacks name ∧ value.isDefault = true

/-- A field is found if it is the only one of its name. -/
theorem find?_eq_some_some_iff {tree : Tree}
    : fields.find? name = some (some tree) ↔ fields.HasOnly name tree := by
  unfold find? HasOnly
  have named : ∀ field ∈ fields.filter (·.1 == name), field.1 = name := by
    intro field among
    simpa using (List.mem_filter.mp among).2
  split
  next none => simp [none]
  next field one =>
    rw [one] at named ⊢
    have same : field.1 = name := named field (List.mem_singleton_self field)
    obtain ⟨_, held⟩ := field
    cases same
    simp
  next several => simpa using fun one => several _ one

/-- A field is found missing if there is none of its name. -/
theorem find?_eq_some_none_iff : fields.find? name = some none ↔ fields.Lacks name := by
  unfold find? Lacks
  split
  next none => simp [none]
  next field one => simp [one]
  next none several => simpa using none

/-- A field that has to be there is read if it is the only one of its name and can be. -/
theorem required?_eq_some_iff {α : Type} {read : Tree → Option α} {value : α}
    : fields.required? name read = some value
      ↔ ∃ tree, fields.HasOnly name tree ∧ read tree = some value := by
  simp only [← find?_eq_some_some_iff]
  unfold required?
  rcases fields.find? name with _ | _ | tree <;> simp

/-- A field that may be missing is read like any other, or has its default. -/
theorem optional?_eq_some_iff {α : Type} {read : Tree → Option α} {default value : α}
    : fields.optional? name read default = some value
      ↔ (∃ tree, fields.HasOnly name tree ∧ read tree = some value)
        ∨ fields.Lacks name ∧ value = default := by
  simp only [← find?_eq_some_some_iff, ← find?_eq_some_none_iff]
  unfold optional?
  rcases fields.find? name with _ | _ | tree <;> simp [eq_comm]

/-- A text that has to be there is read if it is. -/
theorem required?_text_iff {value : String}
    : fields.required? name (·.text?) = some value
      ↔ fields.HasOnly name (.ofValue (.text value)) := by
  simp [required?_eq_some_iff, Tree.text?_eq_some_iff]

/-- A text that may be missing is read if it is told, the empty one by being missing. -/
theorem optional?_text_iff {value : String}
    : fields.optional? name (·.text?) "" = some value ↔ fields.Tells name (.text value) := by
  simp [optional?_eq_some_iff, Tree.text?_eq_some_iff, Tells, Value.isDefault]

/-- An integer that may be missing is read if it is told, zero by being missing. -/
theorem optional?_signed64_iff {n : Int}
    : fields.optional? name (·.signed64?) 0 = some n
      ↔ fields.Tells name (.number (.int n)) ∧ FitsSigned n := by
  simp only [optional?_eq_some_iff, Tree.signed64?_eq_some_iff, Tells, Value.isDefault, beq_iff_eq]
  constructor
  · intro read
    rcases read with ⟨_, only, rfl, fits⟩ | ⟨lacks, rfl⟩
    · exact ⟨.inl only, fits⟩
    · exact ⟨.inr ⟨lacks, rfl⟩, by decide⟩
  · intro told
    rcases told with ⟨only | lacks, fits⟩
    · exact .inl ⟨_, only, rfl, fits⟩
    · exact .inr lacks

end Fields

end Json

-----------------------------------------------------------------------------------------
-- Reading reports
-----------------------------------------------------------------------------------------

namespace Report

/-- The fields tell the report. -/
structure ToldBy (budget : Nat) (fields : Json.Fields) (report : Report) : Prop where
  id : fields.HasOnly "id" (.ofValue (.text report.id))
  declared : ∀ field ∈ report.declared, fields.Tells field.1 field.2
  remotePort : FitsSigned report.remotePort
  connectTime : FitsSigned report.connectTime
  receivedAt : FitsSigned report.receivedAt
  telemetry : readTelemetry? budget fields = some report.telemetry

/-- A report is read from the fields that tell it. -/
theorem ofFields?_eq_some_iff {budget : Nat} {fields : Json.Fields} {report : Report}
    : ofFields? budget fields = some report ↔ report.ToldBy budget fields := by
  simp only [ofFields?, Option.bind_eq_bind, Option.bind_eq_some_iff, Fields.required?_text_iff,
    Fields.optional?_text_iff, Fields.optional?_signed64_iff]
  constructor
  · intro read
    obtain ⟨id, hasId, customId, first, hostname, second, agentVersion, third, relayHost, fourth,
      remotePort, ⟨fifth, portFits⟩, connectTime, ⟨sixth, timeFits⟩, globalIp, seventh, globalHost,
      eighth, receivedAt, ⟨ninth, receiptFits⟩, apiKey, tenth, telemetry, kept, same⟩ := read
    cases same
    exact {
      id := hasId
      declared := by
        simp only [declared, List.forall_mem_cons]
        exact ⟨.inl hasId, first, second, third, fourth, fifth, sixth, seventh, eighth, ninth,
          tenth, nofun⟩
      remotePort := portFits
      connectTime := timeFits
      receivedAt := receiptFits
      telemetry := kept
    }
  · intro told
    have each := told.declared
    simp only [declared, List.forall_mem_cons] at each
    obtain ⟨-, first, second, third, fourth, fifth, sixth, seventh, eighth, ninth, tenth, -⟩ := each
    exact ⟨_, told.id, _, first, _, second, _, third, _, fourth, _, ⟨fifth, told.remotePort⟩, _,
      ⟨sixth, told.connectTime⟩, _, seventh, _, eighth, _, ⟨ninth, told.receivedAt⟩, _, tenth, _,
      told.telemetry, rfl⟩

/-- Telemetry is read as the object of all fields that are not declared. -/
theorem readTelemetry?_eq_some_iff {budget : Nat} {fields : Json.Fields}
    {telemetry : Table Json.Value}
    : readTelemetry? budget fields = some telemetry
      ↔ (Tree.ofFields (fields.undeclared fieldNames)).toValue? (budget + 1)
        = some (.object telemetry.pairs) := by
  have one (field : String × Tree) (pair : String × Json.Value)
      : (field.2.toValue? budget).map (field.1, ·) = some pair
        ↔ some field.1 = some pair.1 ∧ field.2.toValue? budget = some pair.2 := by
    rw [Option.map_eq_some_iff, Option.some.injEq]
    constructor
    · intro made
      obtain ⟨value, read, rfl⟩ := made
      exact ⟨rfl, read⟩
    · intro both
      exact ⟨pair.2, both.2, Prod.ext both.1 rfl⟩
  have same : (fields.undeclared fieldNames).mapM
        (fun field : String × Tree => (field.2.toValue? budget).map (field.1, ·))
      = Tree.membersToValues? budget
          ((fields.undeclared fieldNames).map fun field => (some field.1, field.2)) := by
    ext pairs
    rw [Tree.mapM_eq_some_iff, Tree.membersToValues?_eq_some_iff, List.forall₂_map_left_iff]
    simp only [one]
  have pairs (table : Table Json.Value)
      : table = telemetry ↔ Json.Value.object table.pairs = .object telemetry.pairs := by
    cases table
    cases telemetry
    simp
  change ((fields.undeclared fieldNames).mapM
    (fun field : String × Tree => (field.2.toValue? budget).map (field.1, ·))).map Table.ofPairs
      = _ ↔ _
  rw [same, Tree.ofFields, Tree.toValue?]
  simp only [Option.map_eq_some_iff, pairs]

-----------------------------------------------------------------------------------------
-- Reading what was written
-----------------------------------------------------------------------------------------

/-- Inside the brackets of the report at most `budget` are open at once. -/
def Nests (budget : Nat) (report : Report) : Prop :=
  ∀ value ∈ report.telemetry.values, value.Nests budget

/-- The telemetry nests as deep as the report that has it, one bracket further in. -/
theorem nests_telemetry {budget : Nat} {report : Report}
    : (Json.Value.object report.telemetry.pairs).Nests (budget + 1) ↔ report.Nests budget := by
  constructor
  · intro nests value held
    obtain ⟨entry, among, rfl⟩ := List.mem_map.mp held
    cases nests with
    | object _ each => exact each entry among
  · intro nests
    exact .object report.telemetry.increasing fun entry among =>
      nests entry.2 (List.mem_map_of_mem among)

/-- The report is one that a reader takes as it is: its telemetry is under names of its own and
nested no deeper than the reader allows, and its own numbers fit.
-/
structure Fits (budget : Nat) (report : Report) : Prop where
  undeclared : ∀ name ∈ report.telemetry.names, name ∉ fieldNames
  remotePort : FitsSigned report.remotePort
  connectTime : FitsSigned report.connectTime
  receivedAt : FitsSigned report.receivedAt
  nests : report.Nests budget

/-- Something holds of all numbers in the telemetry. -/
def NumbersAre (among : Number → Prop) (report : Report) : Prop :=
  ∀ value ∈ report.telemetry.values, value.NumbersAre among

/-- The fields that are read from what is written. -/
def written (report : Report) : Json.Fields :=
  report.members.map fun member => (member.1, Tree.ofValue member.2)

/-- The tree of a report has the fields that are written. -/
theorem ofValue_toValue (report : Report)
    : Tree.ofValue report.toValue = Tree.ofFields report.written :=
  Tree.ofValue_object report.members

/-- Of pairs with different names one stands alone under its own. -/
theorem filter_name {α : Type} {pairs : List (String × α)} (distinct : (pairs.map (·.1)).Nodup)
    {pair : String × α} (among : pair ∈ pairs)
    : pairs.filter (·.1 == pair.1) = [pair] := by
  induction pairs with
  | nil => cases among
  | cons first rest ih =>
      obtain ⟨fresh, others⟩ := List.nodup_cons.mp distinct
      have named : ∀ other ∈ rest, other.1 ≠ first.1 := by
        intro other later same
        exact fresh (List.mem_map.mpr ⟨other, later, same⟩)
      rw [List.filter_cons]
      rcases List.mem_cons.mp among with same | later
      · subst same
        rw [if_pos (beq_self_eq_true pair.1), List.filter_eq_nil_iff.mpr]
        intro other later same
        exact named other later (beq_iff_eq.mp same)
      · rw [if_neg, ih others later]
        intro same
        exact named pair later (beq_iff_eq.mp same).symm

/-- Under the name of a declared field is its value, if it is written. -/
theorem members_filter {report : Report}
    (undeclared : ∀ name ∈ report.telemetry.names, name ∉ fieldNames)
    {field : String × Json.Value} (declared : field ∈ report.declared)
    : report.members.filter (·.1 == field.1) = [field].filter isWritten := by
  have known : field.1 ∈ fieldNames := List.mem_map_of_mem declared
  have elsewhere : report.telemetry.pairs.filter (·.1 == field.1) = [] := by
    rw [List.filter_eq_nil_iff]
    intro entry among same
    exact undeclared entry.1 (List.mem_map_of_mem among) (beq_iff_eq.mp same ▸ known)
  rw [members_eq, List.filter_append, elsewhere, List.append_nil, List.filter_comm,
    filter_name (by rw [declared_names]; decide) declared]

section

variable {budget : Nat} {report : Report} (fits : report.Fits budget)

include fits

/-- A declared field is written once unless it has its default, and then not at all. -/
theorem written_filter {field : String × Json.Value} (declared : field ∈ report.declared)
    : report.written.filter (·.1 == field.1)
      = if isWritten field then [(field.1, Tree.ofValue field.2)] else [] := by
  rw [written, List.filter_map]
  refine (congrArg _ (members_filter fits.undeclared declared)).trans ?_
  cases written : isWritten field <;> simp [written]

/-- The fields that are written and not declared are the telemetry. -/
theorem written_undeclared
    : report.written.undeclared fieldNames
      = report.telemetry.pairs.map fun pair => (pair.1, Tree.ofValue pair.2) := by
  have none : (report.declared.filter isWritten).filter (!fieldNames.contains ·.1) = [] := by
    rw [List.filter_eq_nil_iff]
    intro field among
    have known : field.1 ∈ fieldNames := List.mem_map_of_mem (List.mem_filter.mp among).1
    simp [known]
  have all : report.telemetry.pairs.filter (!fieldNames.contains ·.1) = report.telemetry.pairs := by
    rw [List.filter_eq_self]
    intro entry among
    simpa using fits.undeclared entry.1 (List.mem_map_of_mem among)
  rw [Fields.undeclared, written, List.filter_map]
  refine congrArg (List.map _) ?_
  rw [members_eq, List.filter_append]
  refine (congrArg (· ++ _) none).trans ?_
  exact all

/-- What is written tells the report. -/
theorem Fits.toldBy_written : report.ToldBy budget report.written where
  id := by
    have first : ("id", .text report.id) ∈ report.declared := List.mem_cons_self
    exact written_filter fits first
  declared := by
    intro field declared
    have held := written_filter fits declared
    cases kept : isWritten field with
    | true =>
        rw [kept, if_pos rfl] at held
        exact .inl held
    | false =>
        rw [kept, if_neg (by decide)] at held
        rw [isWritten, Bool.or_eq_false_iff, Bool.not_eq_false'] at kept
        exact .inr ⟨held, kept.2⟩
  remotePort := fits.remotePort
  connectTime := fits.connectTime
  receivedAt := fits.receivedAt
  telemetry := by
    rw [readTelemetry?_eq_some_iff, written_undeclared fits, ← Tree.ofValue_object]
    exact (nests_telemetry.mpr fits.nests).toValue?_ofValue

end

/-- Only an object whose fields tell it is read as a report. -/
theorem ofTree?_eq_some_iff {budget : Nat} {tree : Tree} {report : Report}
    : ofTree? (budget + 1) tree = some report
      ↔ ∃ fields, tree = Tree.ofFields fields ∧ report.ToldBy budget fields := by
  simp only [ofTree?, Option.bind_eq_some_iff, Tree.members?_eq_some_iff, ofFields?_eq_some_iff]

/-- The tree of a report is read as the report. -/
theorem Fits.ofTree?_toValue {budget : Nat} {report : Report} (fits : report.Fits budget)
    : ofTree? (budget + 1) (Tree.ofValue report.toValue) = some report :=
  ofTree?_eq_some_iff.mpr ⟨report.written, ofValue_toValue report, fits.toldBy_written⟩

/-- A report whose tree is read at all is nested no deeper than the reader allows. -/
theorem Fits.nests_of_read {budget limit : Nat} {report read : Report}
    (fits : report.Fits budget)
    (reads : ofTree? (limit + 1) (Tree.ofValue report.toValue) = some read)
    : report.Nests limit := by
  obtain ⟨fields, same, told⟩ := ofTree?_eq_some_iff.mp reads
  rw [ofValue_toValue] at same
  obtain rfl := Tree.ofFields_injective same
  have reads := readTelemetry?_eq_some_iff.mp told.telemetry
  rw [written_undeclared fits, ← Tree.ofValue_object] at reads
  exact nests_telemetry.mp ((nests_telemetry.mpr fits.nests).of_toValue? reads)

-----------------------------------------------------------------------------------------
-- Writing what was read
-----------------------------------------------------------------------------------------

namespace ToldBy

variable {budget : Nat} {fields : Json.Fields} {report : Report}

/-- The telemetry of a report is the undeclared fields of the object that it was read from. -/
theorem toValue?_undeclared (told : report.ToldBy budget fields)
    : (Tree.ofFields (fields.undeclared fieldNames)).toValue? (budget + 1)
      = some (.object report.telemetry.pairs) :=
  readTelemetry?_eq_some_iff.mp told.telemetry

/-- A report that was read is one that a reader takes as it is. -/
theorem fits (told : report.ToldBy budget fields) : report.Fits budget where
  undeclared := by
    obtain ⟨pairs, read, same⟩ := Option.map_eq_some_iff.mp told.toValue?_undeclared
    -- The names of the table are among those of the pairs, and these are the undeclared ones.
    have names := Tree.names_of_membersToValues? read
    intro name named
    obtain ⟨entry, held, rfl⟩ := List.mem_map.mp named
    rw [← Json.Value.object.inj same] at held
    have known : some entry.1 ∈ (pairs.map (·.1)).map some :=
      List.mem_map_of_mem (List.mem_map_of_mem (Table.mem_of_mem_ofPairs held))
    rw [← names, List.map_map] at known
    obtain ⟨field, among, same⟩ := List.mem_map.mp known
    have undeclared := (List.mem_filter.mp among).2
    rw [← Option.some.inj same]
    simpa using undeclared
  remotePort := told.remotePort
  connectTime := told.connectTime
  receivedAt := told.receivedAt
  nests := nests_telemetry.mp (Tree.nests_of_toValue? told.toValue?_undeclared)

/-- The numbers of a report that was read are numbers of the object. -/
theorem numbersAre {among : Option Number → Prop} (told : report.ToldBy budget fields)
    (numbers : (Tree.ofFields fields).NumbersAre among)
    : report.NumbersAre fun number => among (some number) := by
  have undeclared : (Tree.ofFields (fields.undeclared fieldNames)).NumbersAre among := by
    cases numbers with
    | object each =>
        refine .object fun member held => each member ?_
        exact List.map_subset _ List.filter_sublist.subset held
  have values := undeclared.of_toValue? told.toValue?_undeclared
  cases values with
  | object each =>
      intro value held
      obtain ⟨entry, among, rfl⟩ := List.mem_map.mp held
      exact each entry among

end ToldBy

/-- All numbers of what a report is written as are integers that fit, if those of its telemetry are.
-/
theorem Fits.numbersAre_toValue {budget : Nat} {report : Report} (fits : report.Fits budget)
    (words : report.NumbersAre Number.IsWord)
    : report.toValue.NumbersAre Number.IsWord := by
  have int {n : Int} (signed : FitsSigned n)
      : (Json.Value.number (.int n)).NumbersAre Number.IsWord :=
    .number ⟨n, rfl, signed.1, Int.le_trans signed.2 (by decide)⟩
  have declared : ∀ field ∈ report.declared, field.2.NumbersAre Number.IsWord :=
    forall_declared .text (int fits.remotePort) (int fits.connectTime) (int fits.receivedAt)
  refine .object fun member among => ?_
  rw [members_eq, List.mem_append] at among
  rcases among with written | held
  · exact declared member (List.mem_filter.mp written).1
  · exact words member.2 (List.mem_map_of_mem held)

/-- The text of a report is read as the tree of what it is written as. -/
theorem Fits.ofText?_render {budget : Nat} {report : Report} (fits : report.Fits budget)
    (words : report.NumbersAre Number.IsWord)
    : Tree.ofText? report.toValue.render = some (Tree.ofValue report.toValue) :=
  Tree.ofText?_render (fits.numbersAre_toValue words)

end Report

end FleetOps
