import StreamPlan.Proofs.Cast.TextRoundTrip
import StreamPlan.Proofs.Plan.FilterFusion
import StreamPlan.Proofs.Plan.KeyReuse
import StreamPlan.Proofs.Plan.RekeyedRows

/-!
# Routes to a grouping

The rows of a stream can be grouped by a column in three ways: rekey the stream by the column
and group on the key it then has, with the key as a column or as a synthetic one, or drop the
rows without a value and group on the values.  On all of them the rows with a value stand in
their order, each under the text of its value.

Main results:

- `Planner.groupRekeyed`, `Planner.groupPresent`: the routes.
- `PlanNode.GroupableBy`: the streams and columns that they are taken with.
- `GroupedStream.GroupsTexts`: the rows that are grouped, and their keys.
- `PlanNode.GroupableBy.exec_groupRekeyed`, `PlanNode.GroupableBy.exec_groupPresent`: the routes
  return such groupings.
-/

namespace StreamPlan

/-! ## The routes -/

namespace Planner

/-- Rekey a stream by a column and group it on that key. -/
def groupRekeyed (planner : Planner) (node : PlanNode) (key : KeyField) (encoding : String) :
    Build GroupedStream := do
  let keyed ← planner.rekey node key false
  planner.groupBy keyed [.column ⟨none, key.name⟩] encoding

/-- Keep the rows of a stream with a value in a column and group them on it. -/
def groupPresent (planner : Planner) (node : PlanNode) (column encoding : String) :
    Build GroupedStream := do
  let present ← planner.filter node (.isNotNull (.column ⟨none, column⟩))
  planner.groupBy present [.column ⟨none, column⟩] encoding

end Planner

/-! ## What the routes return -/

/-- A stream that may be grouped by column `i`, the given field, on all routes: its names are
distinct and have no dots, its keys have no window, the key it has, if any, bears another name,
and the values of the column read back from their texts. -/
structure PlanNode.GroupableBy (node : PlanNode) (i : Nat) (field : Field) : Prop where
  isStream : node.isTable = false
  plainKeys : node.keyFormat = .plain
  distinct : node.schema.names.Nodup
  dotFree : node.schema.DotFree
  column : node.schema.fields[i]? = some field
  textTyped : Value.TextTyped field.type
  otherKey : ∀ key, node.keyField = some key → key.unaliasedName ≠ field.name

namespace PlanNode.GroupableBy

variable {node : PlanNode} {i : Nat} {field : Field}

/-- The name of the column is its own bare name. -/
theorem stripAlias_name (h : node.GroupableBy i field) : stripAlias field.name = field.name := by
  rw [stripAlias, splitAlias_of_dotFree (h.dotFree _ (Schema.name_mem_names h.column))]

/-- The field at the position of the column. -/
theorem fieldAt_eq (h : node.GroupableBy i field) : node.schema.fieldAt i = field := by
  rw [Schema.fieldAt, h.column, Option.getD_some]

/-- The column is found by its name. -/
theorem indexOf?_name (h : node.GroupableBy i field) :
    node.schema.indexOf? field.name = some i :=
  Schema.indexOf?_of_distinct h.distinct h.column

/-- The bare reference to the column resolves to it. -/
theorem resolve_column (h : node.GroupableBy i field) :
    node.schema.resolve ⟨none, field.name⟩ = .ok i := by
  have hname : node.schema.indexOf? (ColumnRef.mk none field.name).name = some i :=
    h.indexOf?_name
  exact Schema.resolve_of_dotFree h.distinct h.dotFree hname

/-- The stream is not keyed by the column yet. -/
theorem isKeyedBy_eq_false (h : node.GroupableBy i field) : node.isKeyedBy field.name = false := by
  rw [Bool.eq_false_iff]
  intro hkeyed
  obtain ⟨key, hkey, hname⟩ := PlanNode.isKeyedBy_iff.1 hkeyed
  apply h.otherKey key hkey
  rw [KeyField.unaliasedName, hname, h.stripAlias_name]

/-- The key of the stream does not serve a grouping on the column. -/
theorem servesGrouping_eq_false (h : node.GroupableBy i field) {key : KeyField}
    (hkey : node.keyField = some key) :
    servesGrouping key [.column ⟨none, field.name⟩] = false := by
  rw [Bool.eq_false_iff]
  intro hserves
  obtain ⟨column, hparts, hname⟩ := servesGrouping_iff.1 hserves
  obtain rfl : ColumnRef.mk none field.name = column := by
    simpa using hparts
  exact h.otherKey key hkey hname.symm

end PlanNode.GroupableBy

/-! ## The rows that are grouped -/

/-- Two lists in step with a third are in step with each other. -/
theorem forall₂_of_common {α β γ : Type} {R : α → β → Prop} {S : α → γ → Prop} {xs : List α}
    {ys : List β} {zs : List γ} (hys : List.Forall₂ R xs ys) (hzs : List.Forall₂ S xs zs) :
    List.Forall₂ (fun y z => ∃ x ∈ xs, R x y ∧ S x z) ys zs := by
  induction hys generalizing zs with
  | nil =>
    cases hzs
    exact .nil
  | @cons x y xs ys hxy _ ih =>
    obtain ⟨z, zs, hxz, hrest, rfl⟩ := List.forall₂_cons_left_iff.1 hzs
    refine .cons ⟨x, List.mem_cons_self, hxy, hxz⟩ ((ih hrest).imp ?_)
    rintro _ _ ⟨other, hother, hpair⟩
    exact ⟨other, List.mem_cons_of_mem _ hother, hpair⟩

/-- The row of a record that has a value at a place. -/
def Record.present? (record : Record) (i : Nat) : Option Row :=
  record.row.filter fun row => !(row.get i).isNull

/-- The rows with a value at a place. -/
def keptRows (i : Nat) (records : List Record) : List Row :=
  records.filterMap fun record => record.present? i

/-- The rows with a value at a place are rows of the records and have one. -/
theorem mem_keptRows_iff {i : Nat} {records : List Record} {row : Row} :
    row ∈ keptRows i records ↔
      ∃ record ∈ records, record.row = some row ∧ (row.get i).isNull = false := by
  simp [keptRows, Record.present?, Option.filter_eq_some_iff]

/-- A rekey drops the rows without a value and puts the others under its text. -/
theorem run_rekeyPipeline_keptRows (i : Nat) (input : Pipeline) (records : List Record) :
    (Planner.rekeyPipeline ⟨i, none⟩ input).run records =
      (keptRows i (input.run records)).map fun row =>
        ⟨.plain (.utf8 (row.get i).text), some row⟩ := by
  rw [Planner.run_rekeyPipeline, keptRows, List.map_filterMap]
  rfl

/-- Records with a value at a place stand in the order of their rows. -/
theorem forall₂_keptRows (i : Nat) (records : List Record) :
    List.Forall₂ (fun row (record : Record) => record.row = some row) (keptRows i records)
      (records.filter fun record => (record.present? i).isSome) := by
  induction records with
  | nil => exact .nil
  | cons record rest ih =>
    rw [keptRows, List.filterMap_cons, List.filter_cons]
    rcases hpresent : record.present? i with _ | row
    · exact ih
    · exact .cons (Option.filter_eq_some_iff.1 hpresent).1 ih

/-- Records with a value at a place have rows, so dropping those without one keeps them all. -/
theorem run_filter_isSome {input : Pipeline} {i : Nat} {records kept : List Record}
    (h : input.run records = kept.filter fun record => (record.present? i).isSome) :
    (Pipeline.filter input fun _ row => row.isSome).run records =
      kept.filter fun record => (record.present? i).isSome := by
  rw [Pipeline.run, h, List.filter_filter]
  refine List.filter_congr fun record _ => ?_
  rcases hrow : record.row with _ | row <;> simp [Record.present?, hrow]

/-- The grouping key that is the value of column `i` of a schema, the given field. -/
def GroupKey.ofColumn (schema : Schema) (i : Nat) (field : Field) : GroupKey :=
  ⟨[⟨.column ⟨none, field.name⟩, schema, .column i (schema.typeAt i)⟩]⟩

/-- The key of a column is the text of its value. -/
theorem GroupKey.keyFor_ofColumn (schema : Schema) (i : Nat) (field : Field) (row : Row) :
    (ofColumn schema i field).keyFor row = .utf8 (row.get i).text :=
  keyFor_single rfl

/-- The grouped stream groups the rows of a node that have a value in column `i`, in their
order, each under the text of that value; its key has a name, and is that column or none. -/
structure GroupedStream.GroupsTexts (grouped : GroupedStream) (node : PlanNode) (i : Nat)
    (name : String) : Prop where
  schema : grouped.source.schema = node.schema
  name : grouped.keyField.name = name
  index : grouped.keyField.index = none ∨ grouped.keyField.index = some i
  rows : ∀ records, List.Forall₂
    (fun row (record : Record) => record.row = some row ∧
      Pipeline.groupKeyOf grouped.groupKey record row = .plain (.utf8 (row.get i).text))
    (keptRows i (node.pipeline.run records)) (grouped.pipeline.run records)

/-- The values under which the rows are grouped are their texts. -/
theorem GroupedStream.GroupsTexts.run_eq {grouped : GroupedStream} {node : PlanNode} {i : Nat}
    {name : String} (h : grouped.GroupsTexts node i name) (records : List Record) :
    grouped.run records =
      (keptRows i (node.pipeline.run records)).map fun row =>
        (.utf8 (row.get i).text, some row) := by
  unfold run
  rw [← List.forall₂_eq_eq_eq, List.forall₂_map_left_iff, List.forall₂_map_right_iff]
  refine (h.rows records).flip.imp ?_
  rintro ⟨key, _⟩ row ⟨rfl, hkey⟩
  rcases hgroup : grouped.groupKey with _ | groupKey <;> rw [hgroup] at hkey
  · obtain rfl : key = .plain (.utf8 (row.get i).text) := hkey
    rfl
  · obtain hvalue : groupKey.keyFor row = .utf8 (row.get i).text := RecordKey.plain.inj hkey
    simp [hvalue]

namespace PlanNode.GroupableBy

variable {node : PlanNode} {i : Nat} {field : Field}

/-- A rekey by the column is returned in every session. -/
theorem exec_rekey (planner : Planner) (h : node.GroupableBy i field) {key : KeyField}
    (hname : key.name = field.name) (session : Session) :
    ∃ keyed after, (planner.rekey node key false).exec session = (.ok keyed, after) ∧
      keyed.isTable = false ∧ keyed.schema = node.schema ∧
      keyed.keyField = some ⟨field.name, key.index.map fun _ => i, field.type⟩ ∧
      keyed.pipeline = Planner.rekeyPipeline ⟨i, none⟩ node.pipeline := by
  have hresolve : resolveKey node.schema key.name = .ok i := by
    rw [resolveKey, mapError_eq_ok_iff, hname]
    exact Schema.resolve_ofName h.indexOf?_name
  have hother : ¬ node.isKeyedBy key.name = true := by simp [hname, h.isKeyedBy_eq_false]
  have hstream : ¬ node.isTable = true := by simp [h.isStream]
  refine ⟨_, _, Planner.exec_rekey_eq_ok_iff.2
    (Or.inr ⟨hother, hstream, ⟨i, none⟩, ⟨hresolve, rfl⟩, rfl, rfl⟩), rfl, rfl, ?_, rfl⟩
  rw [← h.fieldAt_eq]
  rfl

/-- A rekey by the column and a grouping on the new key are returned in every session; the key
has the type of the column, and is that column or synthetic as requested. -/
theorem exec_groupRekeyed (planner : Planner) (h : node.GroupableBy i field) (key : KeyField)
    (hname : key.name = field.name) (encoding : String) (session : Session) :
    ∃ grouped after, (planner.groupRekeyed node key encoding).exec session =
        (.ok grouped, after) ∧ grouped.isRepartitioned = false ∧
      grouped.keyField = ⟨field.name, key.index.map fun _ => i, field.type⟩ ∧
      grouped.GroupsTexts node i field.name := by
  obtain ⟨keyed, between, hrekey, htable, hschema, hkey, hpipeline⟩ :=
    h.exec_rekey planner hname session
  have hserves : servesGrouping ⟨field.name, key.index.map fun _ => i, field.type⟩
      [.column ⟨none, key.name⟩] = true := by
    rw [servesGrouping_iff]
    refine ⟨_, rfl, ?_⟩
    rw [KeyField.unaliasedName, h.stripAlias_name, hname]
  have hdraft : planner.draftGroup keyed [.column ⟨none, key.name⟩] encoding =
      .ok (Planner.groupOnKey keyed ⟨field.name, key.index.map fun _ => i, field.type⟩
        encoding) :=
    Planner.draftGroup_eq_ok_iff.2
      ⟨by simp, by simp [htable], Or.inl ⟨_, hkey, hserves, rfl⟩⟩
  obtain ⟨after, hgroup⟩ := planner.exec_groupBy_of_total hdraft
    (by simp [Planner.groupOnKey, EngineCall.mayFail]) between
  refine ⟨_, after, Build.exec_bind_eq_ok_iff.2 ⟨keyed, between, hrekey, hgroup⟩, rfl, rfl,
    hschema, rfl, ?_, fun records => ?_⟩
  · rcases key.index with _ | _
    · exact Or.inl rfl
    · exact Or.inr rfl
  · change List.Forall₂ _ _ (keyed.pipeline.run records)
    rw [hpipeline, run_rekeyPipeline_keptRows, List.forall₂_map_right_iff, List.forall₂_same]
    exact fun row _ => ⟨rfl, rfl⟩

/-- The predicate that the column has a value compiles over keys without a window, and keeps
the records in which it does. -/
theorem exists_predicate (h : node.GroupableBy i field) (config : Config)
    (functions : Registry) :
    ∃ predicate, Predicate.compile config functions false node.schema
        (.isNotNull (.column ⟨none, field.name⟩)) = .ok predicate ∧
      ∀ record : Record, predicate.test record.key record.row = (record.present? i).isSome := by
  have htyped : (Expr.isNotNull (.column ⟨none, field.name⟩)).typed node.schema functions =
      .ok (.isNull (.column i (node.schema.typeAt i)) true) := by
    rw [Expr.typed_isNotNull, Expr.typed_column, h.resolve_column]
    rfl
  refine ⟨⟨⟨.isNotNull (.column ⟨none, field.name⟩), node.schema,
    .isNull (.column i (node.schema.typeAt i)) true⟩, []⟩, ?_, ?_⟩
  · unfold Predicate.compile
    rw [Predicate.schemaFor_plain, Expr.compile_eq_ok_iff.2 ⟨_, htyped, rfl⟩]
    rfl
  · rintro ⟨key, _ | row⟩
    · rfl
    · unfold Predicate.test Predicate.testRow Predicate.extend
      by_cases hnull : (row.get i).isNull = true <;>
        simp [CompiledExpr.evaluate, TypedExpr.evaluate_isNull, TypedExpr.evaluate_column,
          Record.present?, Option.filter_some, Value.toBool?, hnull, bind, Except.bind]

/-- The filter that the column has a value is returned in every session. -/
theorem exec_filter (planner : Planner) (h : node.GroupableBy i field) (session : Session) :
    ∃ present after,
      (planner.filter node (.isNotNull (.column ⟨none, field.name⟩))).exec session =
        (.ok present, after) ∧
      present.isTable = false ∧ present.schema = node.schema ∧
      present.keyField = node.keyField ∧
      ∀ records, present.pipeline.run records =
        (node.pipeline.run records).filter fun record => (record.present? i).isSome := by
  obtain ⟨predicate, hpredicate, htest⟩ := h.exists_predicate planner.config planner.functions
  have hplain : node.keyFormat.isWindowed = false := by
    rw [h.plainKeys]
    rfl
  obtain ⟨present, after, hexec, hform, hschema, -, hkey, hrun⟩ :=
    planner.exec_filter_of_compile (hplain ▸ hpredicate) session
  refine ⟨present, after, hexec, ?_, hschema, hkey, fun records => ?_⟩
  · rw [PlanNode.isTable, hform]
    exact h.isStream
  · rw [hrun]
    exact List.filter_congr fun record _ => htest record

/-- The values of the column are a grouping list that compiles. -/
theorem groupOnValues_column (planner : Planner) (h : node.GroupableBy i field)
    {present : PlanNode} (hschema : present.schema = node.schema) (encoding : String) :
    planner.groupOnValues present [.column ⟨none, field.name⟩] encoding =
      .ok
        { calls := [.filter, .groupBy .plain encoding]
          grouped :=
            ⟨present, .synthetic field.name .utf8, .plain, some (.ofColumn node.schema i field),
              .filter present.pipeline fun _ row => row.isSome⟩ } := by
  have hcompile : (Expr.column ⟨none, field.name⟩).compile present.schema planner.functions =
      .ok ⟨.column ⟨none, field.name⟩, node.schema, .column i (node.schema.typeAt i)⟩ := by
    rw [hschema]
    exact Expr.compile_column_eq_ok_iff.2 ⟨i, h.resolve_column, rfl⟩
  have hname : Expr.keyName [.column ⟨none, field.name⟩] = field.name := by
    rw [Expr.keyName, List.map_singleton, String.intercalate_singleton]
    rfl
  rw [Planner.groupOnValues, Expr.compileAll_singleton hcompile, hname]
  rfl

/-- Filtering by the column and grouping on it are returned in every session; the key is the
text. -/
theorem exec_groupPresent (planner : Planner) (h : node.GroupableBy i field) (encoding : String)
    (session : Session) :
    ∃ grouped after, (planner.groupPresent node field.name encoding).exec session =
        (.ok grouped, after) ∧ grouped.isRepartitioned = true ∧
      grouped.keyField = .synthetic field.name .utf8 ∧
      grouped.GroupsTexts node i field.name := by
  obtain ⟨present, between, hfilter, htable, hschema, hkey, hpipeline⟩ :=
    h.exec_filter planner session
  have hserves : ∀ key, present.keyField = some key →
      servesGrouping key [.column ⟨none, field.name⟩] = false :=
    fun key hold => h.servesGrouping_eq_false (hkey ▸ hold)
  have hdraft := Planner.draftGroup_eq_ok_iff.2
    ⟨by simp, by simp [htable], Or.inr ⟨hserves, h.groupOnValues_column planner hschema encoding⟩⟩
  obtain ⟨after, hgroup⟩ := planner.exec_groupBy_of_total hdraft
    (by simp [EngineCall.mayFail]) between
  refine ⟨_, after, Build.exec_bind_eq_ok_iff.2 ⟨present, between, hfilter, hgroup⟩, rfl, rfl,
    hschema, rfl, Or.inl rfl, fun records => ?_⟩
  change List.Forall₂ _ _ ((Pipeline.filter present.pipeline fun _ row => row.isSome).run records)
  rw [run_filter_isSome (hpipeline records)]
  refine (forall₂_keptRows i _).imp ?_
  intro row record hrow
  exact ⟨hrow, congrArg RecordKey.plain (GroupKey.keyFor_ofColumn node.schema i field row)⟩

end PlanNode.GroupableBy

end StreamPlan
