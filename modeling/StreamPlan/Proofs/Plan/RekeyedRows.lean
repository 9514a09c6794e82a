import StreamPlan.Proofs.Plan.Run
import StreamPlan.Proofs.RowFunction.Conforming

/-!
# Rows of rekeyed streams

A rekey may write the new key, a string, over the column of the record key.  It asks of that
column that it is there but not which type it has, while the schema stays as it is.  So the
rows conform to the schema when the column is one of strings, and otherwise none of them does.

Main results:

- `Row.conforms_set_iff`: overwriting one column of a conforming row.
- `Rekey.conforms_updateRow_iff`: the rows that a rekey makes.
- `Planner.run_rekeyPipeline`: the records that leave a rekey.
- `Planner.rekeyed_conforms_iff`: the rows of the node that a planner returns.
- `Planner.exists_rekeyed_not_conforming`: a record key in a column of integers.
-/

namespace StreamPlan

variable {schema : Schema} {row : Row} {i : Nat}

/-! ## Rows -/

/-- A row with one column overwritten conforms when the new value fits the column. -/
theorem Row.conforms_set_iff (hrow : row.Conforms schema) (hi : i < schema.width) {v : Value} :
    (row.set i v).Conforms schema ↔ v.Fits (schema.typeAt i) := by
  obtain ⟨hwidth, hfits⟩ := Row.conforms_iff.1 hrow
  rw [Row.conforms_iff, Row.width_set, and_iff_right hwidth]
  constructor
  · intro h
    have hv := h i hi
    rw [Row.get_set, if_pos ⟨rfl, hwidth ▸ hi⟩] at hv
    exact hv
  · intro hv j hj
    rw [Row.get_set]
    split
    · rename_i heq
      exact heq.1 ▸ hv
    · exact hfits j hj

/-- References to columns, compiled against the schema, read null or a value of their type. -/
def Row.ReadsTyped (row : Row) (schema : Schema) (functions : Registry) : Prop :=
  ∀ column compiled, (Expr.column column).compile schema functions = .ok compiled →
    ∀ v, compiled.evaluate row = .ok v → v.Fits compiled.dataType

/-- References to the columns of a conforming row read what they should. -/
theorem Row.Conforms.readsTyped (h : row.Conforms schema) (functions : Registry) :
    row.ReadsTyped schema functions := by
  intro column compiled hcompiled v hv
  obtain ⟨j, hj, rfl⟩ := Expr.compile_column_eq_ok_iff.1 hcompiled
  rw [CompiledExpr.evaluate, TypedExpr.evaluate_column] at hv
  obtain rfl := Except.ok.inj hv
  exact h.fits j (Schema.resolve_lt_width hj)

/-- A column that is read through its name fits its type. -/
theorem Row.ReadsTyped.fits {functions : Registry} (h : row.ReadsTyped schema functions)
    {name : String} (hi : schema.indexOf? name = some i) : (row.get i).Fits (schema.typeAt i) := by
  have hresolve : schema.resolve ⟨none, name⟩ = .ok i := Schema.resolve_of_fullName hi
  refine h ⟨none, name⟩ _ (Expr.compile_column_eq_ok_iff.2 ⟨i, hresolve, rfl⟩) _ ?_
  rw [CompiledExpr.evaluate, TypedExpr.evaluate_column]

/-! ## The rekey -/

/-- The new key fits columns of strings and no others. -/
theorem Rekey.keyFor_fits_iff (rekey : Rekey) (row : Row) {type : DataType} :
    (rekey.keyFor row).Fits type ↔ type = .utf8 := by
  constructor
  · rintro (h | h)
    · cases h
    · exact h.symm
  · rintro rfl
    exact Or.inr rfl

/-- A rekey that overwrites no column makes conforming rows of such, and one that overwrites a
column does when it is a column of strings. -/
theorem Rekey.conforms_updateRow_iff (rekey : Rekey) (hrow : row.Conforms schema)
    (hlt : ∀ i, rekey.rowKeyIndex = some i → i < schema.width) :
    (rekey.updateRow row).Conforms schema ↔
      ∀ i, rekey.rowKeyIndex = some i → schema.typeAt i = .utf8 := by
  unfold updateRow
  cases hindex : rekey.rowKeyIndex with
  | none => exact iff_of_true hrow nofun
  | some i =>
    dsimp only
    rw [Row.conforms_set_iff hrow (hlt i hindex), keyFor_fits_iff]
    simp

/-- Rows keep their width. -/
@[simp] theorem Rekey.width_updateRow (rekey : Rekey) (row : Row) :
    (rekey.updateRow row).width = row.width := by
  unfold updateRow
  split
  · exact Row.width_set _ _ _
  · rfl

/-- The column that is overwritten holds the new key. -/
theorem Rekey.get_updateRow {rekey : Rekey} (hindex : rekey.rowKeyIndex = some i)
    (hi : i < row.width) : (rekey.updateRow row).get i = rekey.keyFor row := by
  rw [updateRow, hindex]
  dsimp only
  rw [Row.get_set, if_pos ⟨rfl, hi⟩]

/-- The record that a rekey makes of a record: none without a value in the column of the new
key. -/
def Rekey.rekeyed? (rekey : Rekey) (record : Record) : Option Record :=
  (record.row.filter fun row => !(row.get rekey.keyIndex).isNull).map fun row =>
    ⟨.plain (rekey.keyFor row), some (rekey.updateRow row)⟩

/-- A rekey makes a record of a row with a value in the column of the new key. -/
theorem Rekey.rekeyed?_eq_some_iff {rekey : Rekey} {record out : Record} :
    rekey.rekeyed? record = some out ↔
      ∃ before, record.row = some before ∧ (before.get rekey.keyIndex).isNull = false ∧
        out = ⟨.plain (rekey.keyFor before), some (rekey.updateRow before)⟩ := by
  rw [rekeyed?, Option.map_eq_some_iff]
  simp only [Option.filter_eq_some_iff, Bool.not_eq_true', and_assoc, @eq_comm _ out]

/-- The record that is kept, under its new key and with its column overwritten, is the one that
a rekey makes. -/
theorem Rekey.rekeyed?_eq (rekey : Rekey) (record : Record) :
    rekey.rekeyed? record =
      if rekey.accepts record.row then
        (Pipeline.rekeyed? rekey.keyFor record).map fun keyed =>
          ⟨keyed.key, rekey.update keyed.row⟩
      else none := by
  obtain ⟨key, _ | row⟩ := record
  · rfl
  · by_cases hnull : (row.get rekey.keyIndex).isNull = true
    · simp [rekeyed?, accepts, Option.filter_some, hnull]
    · simp [rekeyed?, accepts, Pipeline.rekeyed?, update, Option.filter_some, hnull]

/-- The records that leave a rekey are those it makes of the records that reach it, in their
order. -/
theorem Planner.run_rekeyPipeline (rekey : Rekey) (input : Pipeline) (records : List Record) :
    (rekeyPipeline rekey input).run records = (input.run records).filterMap rekey.rekeyed? := by
  have hkeyed :
      (Pipeline.selectKey (.filter input fun _ row => rekey.accepts row) rekey.keyFor).run
          records =
        (input.run records).filterMap fun record =>
          if rekey.accepts record.row then Pipeline.rekeyed? rekey.keyFor record else none := by
    rw [Pipeline.run, Pipeline.run, List.filterMap_filter]
  have hrun : (rekeyPipeline rekey input).run records =
      ((Pipeline.selectKey (.filter input fun _ row => rekey.accepts row) rekey.keyFor).run
        records).map fun keyed => ⟨keyed.key, rekey.update keyed.row⟩ := by
    unfold rekeyPipeline
    rcases hindex : rekey.rowKeyIndex with _ | i
    · simp [Rekey.update_of_none hindex]
    · rfl
  rw [hrun, hkeyed, List.map_filterMap]
  refine List.filterMap_congr fun record _ => ?_
  rw [Rekey.rekeyed?_eq]
  split <;> rfl

/-- What leaves a rekey is a row that reaches it with a value in the column of the new key, under
that key. -/
theorem Planner.exists_of_mem_run_rekeyPipeline {rekey : Rekey} {input : Pipeline}
    {records : List Record} {out : Record}
    (hout : out ∈ (rekeyPipeline rekey input).run records) :
    ∃ record ∈ input.run records, ∃ before, record.row = some before ∧
      (before.get rekey.keyIndex).isNull = false ∧
      out = ⟨.plain (rekey.keyFor before), some (rekey.updateRow before)⟩ := by
  rw [run_rekeyPipeline] at hout
  obtain ⟨record, hrecord, hrekeyed⟩ := List.mem_filterMap.1 hout
  exact ⟨record, hrecord, Rekey.rekeyed?_eq_some_iff.1 hrekeyed⟩

/-- The rows that leave a rekey are made of rows that reach it. -/
theorem Planner.exists_row_of_mem_run_rekeyPipeline {rekey : Rekey} {input : Pipeline}
    {records : List Record} {out : Record} (hout : out ∈ (rekeyPipeline rekey input).run records)
    (hrow : out.row = some row) :
    ∃ record ∈ input.run records, ∃ before, record.row = some before ∧
      row = rekey.updateRow before := by
  obtain ⟨record, hrecord, before, hbefore, -, rfl⟩ := exists_of_mem_run_rekeyPipeline hout
  exact ⟨record, hrecord, before, hbefore, (Option.some.inj hrow).symm⟩

/-! ## Nodes -/

namespace Planner

variable {planner : Planner} {input node : PlanNode} {request : KeyField} {updateRowKey : Bool}
  {before after : Session}

/-- The column that a rekey overwrites is the one with the configured name. -/
theorem indexOf?_of_rowKeyIndex {index : Option Nat}
    (h : planner.rowKeyIndex schema updateRowKey = .ok index) (hi : index = some i) :
    schema.indexOf? planner.config.keyColumn = some i := by
  subst hi
  rcases rowKeyIndex_eq_ok_iff.1 h with ⟨-, hnone⟩ | ⟨-, j, hj, hsome⟩
  · cases hnone
  · rw [hj, ← hsome]

/-- The column that a rekey overwrites is one of the schema. -/
theorem lt_width_of_rowKeyIndex {index : Option Nat}
    (h : planner.rowKeyIndex schema updateRowKey = .ok index) (hi : index = some i) :
    i < schema.width := by
  have hresolve : schema.resolve ⟨none, planner.config.keyColumn⟩ = .ok i :=
    Schema.resolve_of_fullName (indexOf?_of_rowKeyIndex h hi)
  exact Schema.resolve_lt_width hresolve

/-- A request that leaves rows typed: the input is returned, no column is overwritten, or the
column that is overwritten is one of strings. -/
def RekeysTyped (planner : Planner) (input : PlanNode) (request : KeyField)
    (updateRowKey : Bool) : Prop :=
  input.isKeyedBy request.name = true ∨ updateRowKey = false ∨
    ∃ i, input.schema.indexOf? planner.config.keyColumn = some i ∧ input.schema.typeAt i = .utf8

/-- A request that makes a node leaves rows typed when the column that is overwritten is one of
strings, if there is one. -/
theorem rekeysTyped_iff (hkeyed : ¬ input.isKeyedBy request.name = true) {index : Option Nat}
    (hindex : planner.rowKeyIndex input.schema updateRowKey = .ok index) :
    planner.RekeysTyped input request updateRowKey ↔
      ∀ i, index = some i → input.schema.typeAt i = .utf8 := by
  unfold RekeysTyped
  rw [or_iff_right hkeyed]
  rcases rowKeyIndex_eq_ok_iff.1 hindex with ⟨rfl, rfl⟩ | ⟨rfl, i, hi, rfl⟩
  · exact iff_of_true (Or.inl rfl) nofun
  · simp [hi]

/-- Whatever the request, the rows that leave a rekeyed stream have the width of its schema.
They conform to it, and references compiled against it read what they should, exactly when the
request leaves rows typed. -/
theorem rekeyed_conforms_iff
    (returned : (planner.rekey input request updateRowKey).exec before = (.ok node, after))
    {records : List Record}
    (hrows : ∀ record ∈ input.pipeline.run records, ∀ row, record.row = some row →
      row.Conforms input.schema)
    {out : Record} (hout : out ∈ node.pipeline.run records) {row : Row}
    (hrow : out.row = some row) :
    row.width = node.schema.width ∧
      (row.Conforms node.schema ↔ planner.RekeysTyped input request updateRowKey) ∧
      (row.ReadsTyped node.schema planner.functions ↔
        planner.RekeysTyped input request updateRowKey) := by
  rcases exec_rekey_eq_ok_iff.1 returned with
    ⟨hkeyed, rfl, -⟩ | ⟨hkeyed, -, ⟨index, rowKeyIndex⟩, ⟨-, hindex⟩, rfl, -⟩
  · have hconforms := hrows out hout row hrow
    have htyped : planner.RekeysTyped node request updateRowKey := Or.inl hkeyed
    exact ⟨(Row.conforms_iff.1 hconforms).1, iff_of_true hconforms htyped,
      iff_of_true (hconforms.readsTyped _) htyped⟩
  · obtain ⟨record, hrecord, source, hsource, rfl⟩ :=
      exists_row_of_mem_run_rekeyPipeline hout hrow
    have hconforms := hrows record hrecord source hsource
    have hwidth := (Row.conforms_iff.1 hconforms).1
    have hlt : ∀ i, rowKeyIndex = some i → i < input.schema.width := fun i hi =>
      lt_width_of_rowKeyIndex hindex hi
    have hupdated := Rekey.conforms_updateRow_iff ⟨index, rowKeyIndex⟩ hconforms hlt
    rw [← rekeysTyped_iff hkeyed hindex] at hupdated
    refine ⟨by rw [Rekey.width_updateRow]; exact hwidth, hupdated, fun hreads => ?_,
      fun htyped => (hupdated.2 htyped).readsTyped _⟩
    rw [rekeysTyped_iff hkeyed hindex]
    intro i hi
    have hfits := hreads.fits (indexOf?_of_rowKeyIndex hindex hi)
    rw [Rekey.get_updateRow hi (hwidth ▸ hlt i hi), Rekey.keyFor_fits_iff] at hfits
    exact hfits

/-- Orders with a key column of a type; they have no key yet. -/
def ordersKeyedAs (type : DataType) : PlanNode :=
  .source
    ⟨⟨0⟩, ⟨[⟨"ROWKEY", type⟩, ⟨"ORDERID", .int32⟩]⟩, none, .plain, ⟨.stream, .source⟩⟩ "orders"

/-- A key on the number of the order. -/
def byOrder : KeyField := ⟨"ORDERID", some 1, .int32⟩

/-- With strings in the key column the rekeyed row conforms. -/
theorem rekeyed_conforms_strings :
    ∃ node after, (standard.rekey (ordersKeyedAs .utf8) byOrder true).exec .empty =
        (.ok node, after) ∧
      node.pipeline.run [⟨.plain (.utf8 "a"), some ⟨[.utf8 "a", .int32 7]⟩⟩] =
        [⟨.plain (.utf8 "7"), some ⟨[.utf8 "7", .int32 7]⟩⟩] ∧
      (Row.mk [.utf8 "7", .int32 7]).Conforms node.schema ∧
      (Row.mk [.utf8 "7", .int32 7]).ReadsTyped node.schema standard.functions := by
  obtain ⟨node, after, hreturned, hrun⟩ : ∃ node after,
      (standard.rekey (ordersKeyedAs .utf8) byOrder true).exec .empty = (.ok node, after) ∧
      node.pipeline.run [⟨.plain (.utf8 "a"), some ⟨[.utf8 "a", .int32 7]⟩⟩] =
        [⟨.plain (.utf8 "7"), some ⟨[.utf8 "7", .int32 7]⟩⟩] := ⟨_, _, rfl, by decide⟩
  have hrows : ∀ record ∈ (ordersKeyedAs .utf8).pipeline.run
      [⟨.plain (.utf8 "a"), some ⟨[.utf8 "a", .int32 7]⟩⟩],
      ∀ row, record.row = some row → row.Conforms (ordersKeyedAs .utf8).schema := by
    intro record hrecord row hrow
    obtain rfl := List.mem_singleton.1 hrecord
    obtain rfl := Option.some.inj hrow
    decide
  have htyped : standard.RekeysTyped (ordersKeyedAs .utf8) byOrder true :=
    Or.inr (Or.inr ⟨0, by decide, rfl⟩)
  obtain ⟨-, hconforms, hreads⟩ := rekeyed_conforms_iff hreturned hrows
    (by rw [hrun]; exact List.mem_singleton_self _) rfl
  exact ⟨node, after, hreturned, hrun, hconforms.2 htyped, hreads.2 htyped⟩

/-- With integers in the key column the same rekey puts a string there, and a reference to the
column reads it as an integer. -/
theorem exists_rekeyed_not_conforming :
    (ordersKeyedAs .int64).schema.names.Nodup ∧
      (Row.mk [.int64 1, .int32 7]).Conforms (ordersKeyedAs .int64).schema ∧
      ∃ node after compiled,
        (standard.rekey (ordersKeyedAs .int64) byOrder true).exec .empty = (.ok node, after) ∧
        node.pipeline.run [⟨.plain (.utf8 "a"), some ⟨[.int64 1, .int32 7]⟩⟩] =
          [⟨.plain (.utf8 "7"), some ⟨[.utf8 "7", .int32 7]⟩⟩] ∧
        ¬ (Row.mk [.utf8 "7", .int32 7]).Conforms node.schema ∧
        (Expr.column ⟨none, "ROWKEY"⟩).compile node.schema standard.functions = .ok compiled ∧
        compiled.dataType = .int64 ∧
        compiled.evaluate ⟨[.utf8 "7", .int32 7]⟩ = .ok (.utf8 "7") :=
  ⟨by decide, by decide, _, _, _, rfl, by decide, by decide, rfl, rfl, rfl⟩

end Planner

end StreamPlan
