import StreamPlan.Proofs.Aggregation.AggregateRows
import StreamPlan.Proofs.Plan.Run
import StreamPlan.Proofs.RowFunction.Conforming

/-!
# Rows in step with schemas

Every operation hands a row function to the engine and gives its node a schema.  On rows that
conform to the schema of the input, the function gives rows that conform to the schema of the
node.

Main results:

- `Aggregator.Holds.conforms`, `Aggregator.Holds.count_ne_null`: aggregate rows and the schema
  of their node.
- `Planner.exec_intoSink`: what a sink adds to a session.
- `Planner.conforms_foldAll`: aggregate rows after any number of folds.
- `Planner.rowsAligned`: all operations that compute rows.
-/

namespace StreamPlan

/-! ## Aggregate rows -/

namespace Aggregator

variable {aggregator : Aggregator} {keyType : DataType} {aggregate : Row}

/-- An aggregate row conforms to the field of the key and the fields of the columns. -/
theorem Holds.conforms (h : aggregator.Holds keyType aggregate) (name : String) :
    aggregate.Conforms ⟨⟨name, keyType⟩ :: aggregator.fields⟩ := by
  obtain ⟨slot, values, rfl, hslot, hvalues⟩ := h
  refine .cons hslot ?_
  rw [fields, List.forall₂_map_right_iff]
  exact hvalues.flip.imp fun _ _ hholds => hholds.1

/-- The value of a count in an aggregate row is not null. -/
theorem Holds.count_ne_null (h : aggregator.Holds keyType aggregate) {i : Nat}
    {column : AggregateColumn} (hcolumn : aggregator.columns[i]? = some column)
    (hcount : column.call.isCount = true) : aggregate.get (i + 1) ≠ .null := by
  obtain ⟨slot, values, rfl, -, hvalues⟩ := h
  obtain ⟨hi, rfl⟩ := List.getElem?_eq_some_iff.1 hcolumn
  have hi' : i < values.length := hvalues.length_eq ▸ hi
  have hget : (Row.mk (slot :: values)).get (i + 1) = values[i] := by
    simp [Row.get, hi']
  rw [hget]
  exact (hvalues.get hi hi').2 hcount

end Aggregator

/-! ## Sinks -/

namespace Planner

variable {planner : Planner} {before after : Session}

/-- A sink that is attached is the one that was asked for, and its pipeline is written. -/
theorem exec_intoSink {input : PlanNode} {request : SinkRequest} {sink : SinkAttachment}
    (h : (planner.intoSink input request).exec before = (.ok sink, after)) :
    sink = planner.sinkFor input request ∧
      after.written = before.written ++ [(sink.topic, sinkPipeline input ⟨request.dropped⟩)] := by
  obtain ⟨-, -, hsink, rfl⟩ := exec_intoSink_eq_ok_iff.1 h
  exact ⟨hsink, rfl⟩

/-! ## All operations -/

/-- The row functions that the operations of a planner hand to the engine keep rows in step
with schemas: what they make of conforming rows conforms to the schema of the node. -/
structure RowsAligned (planner : Planner) : Prop where
  /-- A projection maps rows to rows and tombstones to tombstones. -/
  select : ∀ {input : PlanNode} {items : List SelectItem} {before after : Session}
    {node : PlanNode}, (planner.select input items).exec before = (.ok node, after) →
    ∃ change, node.pipeline = .map input.pipeline change ∧ change none = none ∧
      ∀ row : Row, row.Conforms input.schema →
        ∃ out, change (some row) = some out ∧ out.Conforms node.schema
  /-- A filter keeps rows as they are. -/
  filter : ∀ {input : PlanNode} {e : Expr} {before after : Session} {node : PlanNode},
    (planner.filter input e).exec before = (.ok node, after) →
    ∃ keep, node.pipeline = .filter input.pipeline keep ∧
      ∀ row : Row, row.Conforms input.schema → row.Conforms node.schema
  /-- A join merges rows of both sides; either or both may be missing. -/
  join : ∀ {left right : PlanNode} {request : JoinRequest} {before after : Session}
    {node : PlanNode}, (planner.join left right request).exec before = (.ok node, after) →
    ∃ joiner, node.pipeline = .join joiner ∧
      ∀ l r : Option Row, (∀ row, l = some row → row.Conforms left.schema) →
        (∀ row, r = some row → row.Conforms right.schema) →
        (joiner.join l r).Conforms node.schema
  /-- An aggregation folds any list of rows, each under any key; its counts are never null. -/
  aggregate : ∀ {grouped : GroupedStream} {items : List AggregateItem} {before after : Session}
    {node : PlanNode}, (planner.aggregate grouped items).exec before = (.ok node, after) →
    ∃ aggregator, node.pipeline = .aggregate grouped.pipeline grouped.groupKey aggregator ∧
      ∀ rows : List (Value × Row), (∀ pair ∈ rows, pair.2.Conforms grouped.source.schema) →
        (aggregator.foldAll aggregator.initial rows).Conforms node.schema ∧
        ∀ i item, items[i]? = some item → item.call.isCount = true →
          (aggregator.foldAll aggregator.initial rows).get (i + 1) ≠ .null
  /-- The changes of a table are its rows. -/
  toStream : ∀ {input : PlanNode} {before after : Session} {node : PlanNode},
    (planner.toStream input).exec before = (.ok node, after) →
    node.pipeline = .changelog input.pipeline ∧
      ∀ row : Row, row.Conforms input.schema → row.Conforms node.schema
  /-- A sink is written without the columns it leaves out. -/
  intoSink : ∀ {input : PlanNode} {request : SinkRequest} {before after : Session}
    {sink : SinkAttachment}, (planner.intoSink input request).exec before = (.ok sink, after) →
    ∃ rows change, after.written = before.written ++ [(sink.topic, .map rows change)] ∧
      (rows = input.pipeline ∨ rows = .changelog input.pipeline) ∧ change none = none ∧
      ∀ row : Row, row.Conforms input.schema →
        ∃ out, change (some row) = some out ∧ out.Conforms sink.schema
  /-- Whatever set of columns is left out, the same places are left of rows and schemas. -/
  leaveOut : ∀ (dropped : IndexSet) {schema : Schema} {row : Row}, row.Conforms schema →
    ((SinkColumns.mk dropped).applyRow row).Conforms ((SinkColumns.mk dropped).applySchema schema)

/-- The columns of an aggregation are those of its items, typed for the grouped rows. -/
theorem wellTyped_of_aggregatorCompile {functions : Registry} (hfunctions : functions.KeepsTypes)
    {schema : Schema} {items : List AggregateItem} {aggregator : Aggregator}
    (h : Aggregator.compile schema functions items = .ok aggregator) :
    (∀ column ∈ aggregator.columns, column.WellTyped schema) ∧
      List.Forall₂ (fun item (column : AggregateColumn) => column.call = item.call) items
        aggregator.columns := by
  obtain ⟨columns, hcolumns, rfl⟩ := map_eq_ok_iff.1 h
  have hforms := AggregateColumn.forall₂_of_compileAll hcolumns
  constructor
  · intro column hcolumn
    obtain ⟨item, -, hitem⟩ := exists_mem_of_forall₂ hforms hcolumn
    exact AggregateColumn.wellTyped_of_compile hfunctions hitem
  · exact hforms.imp fun item column hitem => (AggregateColumn.item_of_compile hitem).1

/-- After any number of rows, each under any key, the aggregate row of a group conforms to the
key and the columns of the aggregation, and its counts are not null. -/
theorem conforms_foldAll {functions : Registry} (hfunctions : functions.KeepsTypes)
    {schema : Schema} {items : List AggregateItem} {compiled : Aggregator}
    (h : Aggregator.compile schema functions items = .ok compiled) (key : KeyField)
    {rows : List (Value × Row)} (hrows : ∀ pair ∈ rows, pair.2.Fits schema) :
    let aggregator := compiled.withKey key.index key.type
    (aggregator.foldAll aggregator.initial rows).Conforms
        ⟨⟨key.name, key.type⟩ :: aggregator.fields⟩ ∧
      ∀ i item, items[i]? = some item → item.call.isCount = true →
        (aggregator.foldAll aggregator.initial rows).get (i + 1) ≠ .null := by
  intro aggregator
  obtain ⟨hcolumns, hcalls⟩ := wellTyped_of_aggregatorCompile hfunctions h
  have hkey : aggregator.key = some ⟨key.index, key.type⟩ := rfl
  have hholds := Aggregator.holds_foldAll hkey hcolumns hrows (Aggregator.holds_initial hcolumns _)
  refine ⟨hholds.conforms key.name, fun i item hitem hcount => ?_⟩
  obtain ⟨hi, rfl⟩ := List.getElem?_eq_some_iff.1 hitem
  have hi' : i < compiled.columns.length := hcalls.length_eq ▸ hi
  have hcall : compiled.columns[i].call = items[i].call := hcalls.get hi hi'
  exact hholds.count_ne_null (List.getElem?_eq_getElem hi') (hcall ▸ hcount)

/-- Over functions that return null or a value of their declared type, all row functions of a
planner keep rows in step with schemas. -/
theorem rowsAligned (hfunctions : planner.functions.KeepsTypes) : planner.RowsAligned where
  select {input items before after node} h := by
    obtain ⟨draft, hdraft, -, rfl, -⟩ := exec_carryOut_eq_ok_iff.1 h
    obtain ⟨compiled, hcompiled, -, rfl⟩ := draftSelect_eq_ok_iff.1 hdraft
    exact ⟨_, rfl, rfl, fun row hrow =>
      ⟨_, rfl, Projection.conforms_applyRow hfunctions hcompiled hrow.fits⟩⟩
  filter {input e before after node} h := by
    obtain ⟨draft, hdraft, -, rfl, -⟩ := exec_carryOut_eq_ok_iff.1 h
    obtain ⟨predicate, -, rfl⟩ := draftFilter_eq_ok_iff.1 hdraft
    exact ⟨_, rfl, fun row hrow => hrow⟩
  join {left right request before after node} h := by
    obtain ⟨draft, hdraft, -, rfl, -⟩ := exec_carryOut_eq_ok_iff.1 h
    obtain ⟨-, hschema, key, call, -, -, rfl⟩ := draftJoin_eq_ok_iff.1 hdraft
    refine ⟨_, rfl, fun l r hl hr => ?_⟩
    change Row.Conforms _ request.schema
    rw [hschema]
    exact Joiner.conforms_join hl hr
  aggregate {grouped items before after node} h := by
    obtain ⟨draft, hdraft, -, rfl, -⟩ := exec_carryOut_eq_ok_iff.1 h
    obtain ⟨compiled, aggregator, hcompiled, rfl, -, rfl⟩ := draftAggregate_eq_ok_iff.1 hdraft
    exact ⟨_, rfl, fun rows hrows =>
      conforms_foldAll hfunctions hcompiled grouped.keyField fun pair hpair =>
        (hrows pair hpair).fits⟩
  toStream {input before after node} h := by
    obtain ⟨draft, hdraft, -, rfl, -⟩ := exec_carryOut_eq_ok_iff.1 h
    obtain ⟨-, rfl⟩ := draftToStream_eq_ok_iff.1 hdraft
    exact ⟨rfl, fun row hrow => hrow⟩
  intoSink {input request before after sink} h := by
    obtain ⟨rfl, hwritten⟩ := exec_intoSink h
    have hchange : ∀ row : Row, row.Conforms input.schema →
        ∃ out, (SinkColumns.mk request.dropped).apply (some row) = some out ∧
          out.Conforms (planner.sinkFor input request).schema := fun row hrow =>
      ⟨_, rfl, SinkColumns.conforms_applyRow _ hrow⟩
    unfold sinkPipeline at hwritten
    cases hform : input.form with
    | stream =>
      rw [hform] at hwritten
      exact ⟨_, _, hwritten, Or.inl rfl, rfl, hchange⟩
    | table =>
      rw [hform] at hwritten
      exact ⟨_, _, hwritten, Or.inr rfl, rfl, hchange⟩
  leaveOut dropped _ _ h := SinkColumns.conforms_applyRow ⟨dropped⟩ h

/-- Payments grouped by their key column. -/
def paymentsById : GroupedStream where
  source := .source ⟨⟨0⟩, ⟨[⟨"ID", .utf8⟩, ⟨"AMOUNT", .int32⟩]⟩, some ⟨"ID", some 0, .utf8⟩,
    .plain, ⟨.stream, .source⟩⟩ "payments"
  keyField := ⟨"ID", some 0, .utf8⟩
  keyFormat := .plain
  groupKey := none
  pipeline := .source

/-- The number of known amounts and their sum. -/
def countAndTotal : List AggregateItem :=
  [⟨"N", .count (.column ⟨none, "AMOUNT"⟩)⟩, ⟨"TOTAL", .sum (.column ⟨none, "AMOUNT"⟩)⟩]

/-- Three payments of one group, one of an unknown amount. -/
def threePayments : List (Value × Row) :=
  [(.utf8 "a", ⟨[.utf8 "a", .int32 5]⟩), (.utf8 "a", ⟨[.utf8 "a", .null]⟩),
    (.utf8 "a", ⟨[.utf8 "a", .int32 7]⟩)]

/-- The sum of 32-bit amounts is a 64-bit integer in the row and in the schema. -/
theorem rowsAligned_threePayments :
    ∃ node after aggregator,
      (standard.aggregate paymentsById countAndTotal).exec .empty = (.ok node, after) ∧
      node.schema = ⟨[⟨"ID", .utf8⟩, ⟨"N", .int64⟩, ⟨"TOTAL", .int64⟩]⟩ ∧
      node.pipeline = .aggregate .source none aggregator ∧
      aggregator.foldAll aggregator.initial threePayments =
        ⟨[.utf8 "a", .int64 2, .int64 12]⟩ ∧
      (Row.mk [.utf8 "a", .int64 2, .int64 12]).Conforms node.schema := by
  obtain ⟨node, after, aggregator, hreturned, hschema, hpipeline, hfolded⟩ :
      ∃ node after aggregator,
        (standard.aggregate paymentsById countAndTotal).exec .empty = (.ok node, after) ∧
        node.schema = ⟨[⟨"ID", .utf8⟩, ⟨"N", .int64⟩, ⟨"TOTAL", .int64⟩]⟩ ∧
        node.pipeline = .aggregate .source none aggregator ∧
        aggregator.foldAll aggregator.initial threePayments =
          ⟨[.utf8 "a", .int64 2, .int64 12]⟩ :=
    ⟨_, _, _, rfl, rfl, rfl, rfl⟩
  refine ⟨node, after, aggregator, hreturned, hschema, hpipeline, hfolded, ?_⟩
  obtain ⟨other, hother, hrows⟩ := (rowsAligned Registry.keepsTypes_builtins).aggregate hreturned
  rw [hpipeline] at hother
  obtain ⟨-, -, rfl⟩ := Pipeline.aggregate.inj hother
  exact hfolded ▸ (hrows threePayments (by decide)).1

end Planner

end StreamPlan
