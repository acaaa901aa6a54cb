import FleetOps.Proofs.Fleet.Report

/-! Reports between a reader and a writer. What a report is written as is read as the same report,
and an object that is read as a report is written as one that keeps every field that is not
declared, at every depth, and every declared field that holds more than its default.
-/

namespace FleetOps

open Json

-----------------------------------------------------------------------------------------
-- What an object keeps of another
-----------------------------------------------------------------------------------------

/-- The tree is what a declared field holds that is not there. -/
def Json.Tree.IsDefault (tree : Tree) : Prop :=
  tree = .text (some "") ∨ tree = .number (some (.int 0))

/-- A tree is a default exactly if its value is one. -/
theorem Json.Tree.isDefault_ofValue (value : Value)
    : (ofValue value).IsDefault ↔ value.isDefault = true := by
  cases value with
  | number number => cases number <;> simp [ofValue, IsDefault, Value.isDefault]
  | _ => simp [ofValue, IsDefault, Value.isDefault]

namespace Report

/-- What is written is an object that keeps another one. It holds the same at every place under a
name that is not declared and the same under a declared name that holds no default. Of declared
names only those that are always written hold a default, and these are there.
-/
structure Keeps (before after : Tree) : Prop where
  object : after.face = .object
  distinct : after.Distinct
  undeclared
    : ∀ name path,
        name ∉ fieldNames
        → after.faceAt? (.member name :: path) = before.faceAt? (.member name :: path)
  declared
    : ∀ name (held : Tree),
        name ∈ fieldNames
        → ¬ held.IsDefault
        → (after.child? (.member name) = some held ↔ before.child? (.member name) = some held)
  defaults
    : ∀ name (held : Tree),
        name ∈ fieldNames
        → held.IsDefault
        → after.child? (.member name) = some held
        → name ∈ alwaysWritten
  always : ∀ name ∈ alwaysWritten, ∃ held, after.child? (.member name) = some held

/-- The octets of the text that a report is written as. -/
def toBytes (report : Report) : List UInt8 := Utf8.encode report.toValue.render

/-- Reads a report from the octets of its text. -/
def ofBytes? (body : List UInt8) : Option Report :=
  (Tree.ofBytes? body).bind (ofTree? maxOpenBrackets)

end Report

-----------------------------------------------------------------------------------------
-- Names of objects
-----------------------------------------------------------------------------------------

namespace Json

/-- What is found of a name is the first field that has it. -/
theorem Fields.find?_eq_head? (fields : Fields) (name : String)
    : Named.find? name fields = ((fields.filter (·.1 == name)).head?).map (·.2) := by
  induction fields with
  | nil => rfl
  | cons field rest ih =>
      rw [Named.find?, List.filter_cons]
      by_cases same : field.1 = name
      · simp [same]
      · simp [same, ih]

/-- Fields that are not declared stay when the declared ones are left out. -/
theorem Fields.find?_undeclared {names : List String} {name : String} (other : name ∉ names)
    (fields : Fields)
    : Named.find? name (fields.undeclared names) = Named.find? name fields := by
  rw [find?_eq_head?, find?_eq_head?, undeclared, List.filter_comm, List.filter_eq_self.mpr]
  intro field named
  have same : field.1 = name := by simpa using (List.mem_filter.mp named).2
  simpa [same] using other

/-- Leaving out the declared fields leaves the others with distinct names. -/
theorem Tree.Distinct.undeclared {fields : Fields} (distinct : (ofFields fields).Distinct)
    (names : List String)
    : (ofFields (fields.undeclared names)).Distinct := by
  have fewer : (fields.undeclared names).Sublist fields := List.filter_sublist
  cases distinct with
  | object apart each =>
      refine .object (apart.sublist ((fewer.map _).map _)) fun member held => each member ?_
      exact List.map_subset _ fewer.subset held

/-- No object in a value that a reader makes has two members of one name, by induction on the value.
-/
theorem Value.Nests.distinct {budget : Nat} {value : Value} (nests : value.Nests budget)
    : (Tree.ofValue value).Distinct := by
  induction nests with
  | null => exact .null
  | bool value => exact .bool value
  | number number => exact .number (some number)
  | text value => exact .text (some value)
  | array _ ih =>
      rw [Tree.ofValue, Tree.ofValues_eq_map]
      exact .array (List.forall_mem_map.mpr ih)
  | @object _ members increasing _ ih =>
      rw [Tree.ofValue, Tree.ofMembers_eq_map]
      refine .object ?_ (List.forall_mem_map.mpr ih)
      have named : (members.map fun member => (some member.1, Tree.ofValue member.2)).map (·.1)
          = (members.map (·.1)).map some := by
        rw [List.map_map, List.map_map]
        rfl
      rw [named]
      exact increasing.names_nodup.map (Option.some_injective _)

/-- Under a name whose value is told is that value, unless it is a default. -/
theorem Fields.Tells.child?_iff {fields : Fields} {name : String} {value : Value}
    (tells : fields.Tells name value) {held : Tree} (solid : ¬ held.IsDefault)
    : (Tree.ofFields fields).child? (.member name) = some held ↔ held = Tree.ofValue value := by
  rw [Tree.child?_ofFields, find?_eq_head?]
  rcases tells with only | ⟨lacks, default⟩
  · rw [only]
    exact ⟨fun same => (Option.some.inj same).symm, fun same => congrArg some same.symm⟩
  · rw [lacks]
    refine ⟨nofun, fun same => absurd ?_ solid⟩
    rw [same, Tree.isDefault_ofValue]
    exact default

end Json

namespace Report

-----------------------------------------------------------------------------------------
-- Two objects that tell one report
-----------------------------------------------------------------------------------------

section

variable {budget : Nat} {report : Report} {fields : Json.Fields}

/-- What tells a report holds its telemetry at every place that is not declared. -/
theorem ToldBy.faceAt?_undeclared (told : report.ToldBy budget fields)
    (distinct : (Tree.ofFields fields).Distinct) {name : String} (other : name ∉ fieldNames)
    (path : List Tree.Place)
    : (Tree.ofFields fields).faceAt? (.member name :: path)
      = (Tree.ofValue (.object report.telemetry.pairs)).faceAt? (.member name :: path) := by
  rw [(distinct.undeclared fieldNames).faceAt?_ofValue told.toValue?_undeclared, Tree.faceAt?,
    Tree.faceAt?, Tree.child?_ofFields, Tree.child?_ofFields, Fields.find?_undeclared other]

/-- What is written has different names. -/
theorem Fits.names_nodup (fits : report.Fits budget) : (report.members.map (·.1)).Nodup := by
  have declared : ((report.declared.filter isWritten).map (·.1)).Sublist fieldNames :=
    List.filter_sublist.map _
  have known : fieldNames.Nodup := by decide
  rw [members_eq, List.map_append]
  refine List.Nodup.append (known.sublist declared) report.telemetry.increasing.names_nodup ?_
  intro name written kept
  exact fits.undeclared name kept (declared.subset written)

/-- What is written of a report that fits has distinct names throughout. -/
theorem Fits.distinct_written (fits : report.Fits budget)
    : (Tree.ofFields report.written).Distinct := by
  have named : (report.written.map fun field => (some field.1, field.2)).map (·.1)
      = (report.members.map (·.1)).map some := by
    simp only [written, List.map_map]
    rfl
  refine .object (named ▸ fits.names_nodup.map (Option.some_injective _)) ?_
  simp only [written, List.forall_mem_map]
  intro member among
  rw [members_eq, List.mem_append] at among
  rcases among with written | held
  · let flat (value : Json.Value) : Prop := (Tree.ofValue value).Distinct
    have declared : ∀ field ∈ report.declared, flat field.2 :=
      forall_declared (fun value => Tree.Distinct.text (some value)) (Tree.Distinct.number _)
        (Tree.Distinct.number _) (Tree.Distinct.number _)
    exact declared member (List.mem_filter.mp written).1
  · exact (fits.nests member.2 (List.mem_map_of_mem held)).distinct

/-- What is written under a declared name is the value of its field. -/
theorem Fits.child?_written (fits : report.Fits budget) {field : String × Json.Value}
    (declared : field ∈ report.declared)
    : (Tree.ofFields report.written).child? (.member field.1)
      = if isWritten field then some (Tree.ofValue field.2) else none := by
  rw [Tree.child?_ofFields, Fields.find?_eq_head?, written_filter fits declared]
  cases isWritten field <;> rfl

/-- A name that is known is that of a declared field. -/
theorem exists_declared (report : Report) {name : String} (known : name ∈ fieldNames)
    : ∃ field ∈ report.declared, field.1 = name := by
  rw [← declared_names report] at known
  exact List.mem_map.mp known

/-- What a report is written as keeps every object that tells the report, since it tells the report
too.
-/
theorem ToldBy.keeps (told : report.ToldBy budget fields)
    (distinct : (Tree.ofFields fields).Distinct)
    : Keeps (Tree.ofFields fields) (Tree.ofFields report.written) where
  object := rfl
  distinct := told.fits.distinct_written
  undeclared := by
    intro name path other
    rw [told.faceAt?_undeclared distinct other,
      told.fits.toldBy_written.faceAt?_undeclared told.fits.distinct_written other]
  declared := by
    intro name held known solid
    obtain ⟨field, declared, rfl⟩ := exists_declared report known
    rw [(told.declared field declared).child?_iff solid,
      (told.fits.toldBy_written.declared field declared).child?_iff solid]
  defaults := by
    intro name held known default found
    obtain ⟨field, declared, rfl⟩ := exists_declared report known
    rw [told.fits.child?_written declared, Option.ite_none_right_eq_some] at found
    obtain ⟨written, same⟩ := found
    rw [← Option.some.inj same, Tree.isDefault_ofValue] at default
    rw [isWritten, default] at written
    simpa using written
  always := by
    intro name always
    have known : name ∈ fieldNames := by
      have all : ∀ name ∈ alwaysWritten, name ∈ fieldNames := by decide
      exact all name always
    obtain ⟨field, declared, rfl⟩ := exists_declared report known
    refine ⟨Tree.ofValue field.2, ?_⟩
    rw [told.fits.child?_written declared, isWritten, List.contains_iff_mem.mpr always]
    rfl

end

-----------------------------------------------------------------------------------------
-- The round trip
-----------------------------------------------------------------------------------------

/-- All numbers of the telemetry are integers. -/
def HasIntegers (report : Report) : Prop := report.NumbersAre fun number => ∃ n, number = .int n

/-- The report is one that a reader makes. -/
structure IsAsRead (report : Report) : Prop where
  fits : report.Fits (maxOpenBrackets - 1)
  integers : report.NumbersAre fun number => IntegerFits (some number)

/-- A report that was read is one that a reader makes. -/
theorem isAsRead_of_read {report : Report} {body : List UInt8} {tree : Tree}
    (parsed : Tree.ofBytes? body = some tree) (read : ofTree? maxOpenBrackets tree = some report)
    : report.IsAsRead := by
  obtain ⟨fields, rfl, told⟩ := ofTree?_eq_some_iff.mp read
  exact ⟨told.fits, told.numbersAre (Tree.numbersAre_of_read parsed)⟩

/-- The numbers of a report that was read are words if all of them are integers. -/
theorem IsAsRead.words {report : Report} (asRead : report.IsAsRead)
    (integers : report.HasIntegers)
    : report.NumbersAre Number.IsWord := by
  intro value held
  refine (integers value held).both (asRead.integers value held) ?_
  intro number integer fits
  obtain ⟨n, rfl⟩ := integer
  exact ⟨n, rfl, fits n rfl⟩

/-- A report that fits is read from what it is written as. -/
theorem Fits.ofBytes?_toBytes {report : Report} (fits : report.Fits (maxOpenBrackets - 1))
    (words : report.NumbersAre Number.IsWord)
    : ofBytes? report.toBytes = some report := by
  rw [ofBytes?, toBytes, Tree.ofBytes?_encode, fits.ofText?_render words, Option.bind_some]
  exact fits.ofTree?_toValue

/-- Reports that fit are read back as they were, and an object without two members of one name,
whose numbers are integers, is kept by what the report that is read from it is written as; that is
read as the same report.
-/
theorem roundTrip
    : (∀ report : Report,
        report.Fits (maxOpenBrackets - 1)
        → report.NumbersAre Number.IsWord
        → ofBytes? report.toBytes = some report)
      ∧ ∀ (body : List UInt8) (tree : Tree) (report : Report),
          Tree.ofBytes? body = some tree
          → tree.Distinct
          → tree.NumbersAre (fun number => ∃ n, number = some (.int n))
          → ofTree? maxOpenBrackets tree = some report
          → ofBytes? report.toBytes = some report
            ∧ ∃ after, Tree.ofBytes? report.toBytes = some after ∧ Keeps tree after := by
  refine ⟨fun report fits words => fits.ofBytes?_toBytes words, ?_⟩
  intro body tree report parsed distinct integers read
  obtain ⟨fields, rfl, told⟩ := ofTree?_eq_some_iff.mp read
  have numbers := told.numbersAre integers
  simp only [Option.some.injEq] at numbers
  have words := (isAsRead_of_read parsed read).words numbers
  refine ⟨told.fits.ofBytes?_toBytes words, Tree.ofFields report.written, ?_, told.keeps distinct⟩
  rw [toBytes, Tree.ofBytes?_encode, told.fits.ofText?_render words, ofValue_toValue]

/-- An object with an empty declared field and fields that are not declared. -/
def sampleTree : Tree :=
  Tree.ofFields
    [("errors", .array [Tree.ofFields [("what", .null), ("at", .number (some (.int (-1))))]]),
      ("hostname", .text (some "")), ("id", .text (some "n1"))]

/-- The report that is read from it. -/
def sampleReport : Report :=
  {
    blank "n1" with
    telemetry := Table.empty.insert "errors"
      (.array [.object [("at", .number (.int (-1))), ("what", .null)]])
  }

/-- The text of the object. -/
def sampleText : String :=
  "\x7b\"errors\":[\x7b\"what\":null,\"at\":-1\x7d],\"hostname\":\"\",\"id\":\"n1\"\x7d"

/-- The report is read from what it is written as, and that keeps the object. -/
theorem sampleReport_roundTrip
    : sampleReport.Fits (maxOpenBrackets - 1)
      ∧ ofBytes? sampleReport.toBytes = some sampleReport
      ∧ Tree.ofBytes? (Utf8.encode sampleText) = some sampleTree
      ∧ ∃ after, Tree.ofBytes? sampleReport.toBytes = some after ∧ Keeps sampleTree after := by
  have parsed : Tree.ofBytes? (Utf8.encode sampleText) = some sampleTree := rfl
  have read : ofTree? maxOpenBrackets sampleTree = some sampleReport := rfl
  have distinct : sampleTree.Distinct := by
    refine .object (by decide) ?_
    simp only [List.map_cons, List.map_nil, List.forall_mem_cons]
    refine ⟨.array ?_, .text _, .text _, nofun⟩
    simp only [List.forall_mem_singleton]
    refine .object (by decide) ?_
    simp only [List.map_cons, List.map_nil, List.forall_mem_cons]
    exact ⟨.null, .number _, nofun⟩
  have integers : sampleTree.NumbersAre fun number => ∃ n, number = some (.int n) := by
    refine .object ?_
    simp only [List.map_cons, List.map_nil, List.forall_mem_cons]
    refine ⟨.array ?_, .text _, .text _, nofun⟩
    simp only [List.forall_mem_singleton]
    refine .object ?_
    simp only [List.map_cons, List.map_nil, List.forall_mem_cons]
    exact ⟨.null, .number ⟨-1, rfl⟩, nofun⟩
  have words : sampleReport.NumbersAre Number.IsWord := by
    intro value held
    obtain rfl := List.mem_singleton.mp held
    refine .array (List.forall_mem_singleton.mpr (.object ?_))
    simp only [List.forall_mem_cons]
    exact ⟨.number ⟨-1, rfl, by decide, by decide⟩, .null, nofun⟩
  obtain ⟨fields, -, told⟩ := ofTree?_eq_some_iff.mp read
  have again := roundTrip.1 sampleReport told.fits words
  obtain ⟨-, kept⟩ := roundTrip.2 _ _ _ parsed distinct integers read
  exact ⟨told.fits, again, parsed, kept⟩

end Report

end FleetOps
