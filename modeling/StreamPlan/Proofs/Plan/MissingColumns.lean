import StreamPlan.Proofs.Plan.RekeyedRows
import StreamPlan.Proofs.RowFunction.MissingColumns

/-!
# Short rows in a plan

The engine may hand a row function a row with fewer columns than the schema of the node it comes
from.  For each operation this module says what becomes of such a row, compared with the row that
has nulls in the missing columns.  Operations that compute with columns see no difference.
Operations that move rows or overwrite columns do: a join moves the right side into the missing
columns of the left one, a rekey does not write a record key into a missing column, and a filter
over windowed keys puts the bounds of the window there.

Main results:

- `Planner.groupKey_eq_some`: the composite key of a grouping.
- `Planner.readsMissingAsNull`: all operations, and how far each goes.
- `Planner.short_rows_differ`: a filter, a rekey and a join that tell a short row apart.
-/

namespace StreamPlan

namespace Planner

variable {planner : Planner}

/-- A grouping on values has the composite key of its compiled list. -/
theorem groupKey_eq_some {input : PlanNode} {parts : List Expr} {encoding : String}
    {before after : Session} {grouped : GroupedStream} {key : GroupKey}
    (h : (planner.groupBy input parts encoding).exec before = (.ok grouped, after))
    (hkey : grouped.groupKey = some key) :
    Expr.compileAll "Group By" input.schema planner.functions parts = .ok key.expressions := by
  obtain ⟨draft, hdraft, rfl⟩ := exec_groupBy h
  obtain ⟨-, -, ⟨k, -, -, rfl⟩ | ⟨-, hvalues⟩⟩ := draftGroup_eq_ok_iff.1 hdraft
  · cases hkey
  · unfold groupOnValues at hvalues
    obtain ⟨compiled, hcompiled, heq⟩ := bind_eq_ok_iff.1 hvalues
    obtain rfl := Except.ok.inj heq
    obtain rfl := Option.some.inj hkey
    exact hcompiled

/-- What the row functions of a planner make of a row is what they make of the row with nulls up
to the width of the schema, as far as each of them reads columns by their place. -/
structure ReadsMissingAsNull (planner : Planner) : Prop where
  /-- A projection makes one row of both. -/
  select : ∀ {input : PlanNode} {items : List SelectItem} {before after : Session}
    {node : PlanNode}, (planner.select input items).exec before = (.ok node, after) →
    ∃ change, node.pipeline = .map input.pipeline change ∧
      ∀ row : Row, change (some row) = change (some (row.padTo input.schema.width))
  /-- A filter keeps both or none, if the bounds of the window do not get in the way: without a
  window they never do. -/
  filter : ∀ {input : PlanNode} {e : Expr} {before after : Session} {node : PlanNode},
    (planner.filter input e).exec before = (.ok node, after) →
    ∃ keep, node.pipeline = .filter input.pipeline keep ∧
      ∀ (key : RecordKey) (row : Row),
        Predicate.BoundsAside planner.config input.keyFormat.isWindowed input.schema e key row →
        keep key (some row) = keep key (some (row.padTo input.schema.width))
  /-- Both have one composite key. -/
  groupBy : ∀ {input : PlanNode} {parts : List Expr} {encoding : String}
    {before after : Session} {grouped : GroupedStream} {key : GroupKey},
    (planner.groupBy input parts encoding).exec before = (.ok grouped, after) →
    grouped.groupKey = some key →
    ∀ row : Row, key.keyFor row = key.keyFor (row.padTo input.schema.width)
  /-- A rekey drops both or none and gives them one new key.  It writes this key over the column
  of the record key where that is there, and leaves the columns of a shorter row. -/
  rekey : ∀ {input : PlanNode} {request : KeyField} {updateRowKey : Bool}
    {before after : Session} {node : PlanNode},
    (planner.rekey input request updateRowKey).exec before = (.ok node, after) →
    (node = input ∧ after = before) ∨
      ∃ rekey : Rekey, node.pipeline = rekeyPipeline rekey input.pipeline ∧
        ∀ row : Row,
          let padded := row.padTo input.schema.width
          rekey.accepts (some row) = rekey.accepts (some padded) ∧
            rekey.keyFor row = rekey.keyFor padded ∧
            (rekey.updateRow row).columns = (rekey.updateRow padded).columns.take row.width ∧
            ((rekey.updateRow row).ReadsLike (rekey.updateRow padded) ↔
              ∀ i, rekey.rowKeyIndex = some i → i < row.width)
  /-- A join makes one row of both exactly when neither side is short.  Rows joined with a short
  right row read alike, and rows joined with a short left row do where the right side reads as
  null everywhere. -/
  join : ∀ {left right : PlanNode} {request : JoinRequest} {before after : Session}
    {node : PlanNode}, (planner.join left right request).exec before = (.ok node, after) →
    ∃ joiner, node.pipeline = .join joiner ∧
      (∀ l r : Option Row,
        joiner.join l r = joiner.join (l.map (·.padTo left.schema.width))
            (r.map (·.padTo right.schema.width)) ↔
          (∀ row, l = some row → left.schema.width ≤ row.width) ∧
            ∀ row, r = some row → right.schema.width ≤ row.width) ∧
      (∀ (l : Option Row) (r : Row),
        (joiner.join l (some r)).ReadsLike
          (joiner.join l (some (r.padTo right.schema.width)))) ∧
      ∀ (l : Row) (r : Option Row),
        (joiner.join (some l) r).ReadsLike (joiner.join (some (l.padTo left.schema.width)) r) ↔
          left.schema.width ≤ l.width ∨
            ∀ i, (Row.mk (Joiner.side right.schema.width r)).get i = .null
  /-- An aggregation makes one aggregate row of both, under any key and from any aggregate row. -/
  aggregate : ∀ {grouped : GroupedStream} {items : List AggregateItem} {before after : Session}
    {node : PlanNode}, (planner.aggregate grouped items).exec before = (.ok node, after) →
    ∃ aggregator, node.pipeline = .aggregate grouped.pipeline grouped.groupKey aggregator ∧
      ∀ (key : Value) (row aggregate : Row),
        aggregator.fold key row aggregate =
          aggregator.fold key (row.padTo grouped.source.schema.width) aggregate

/-- The row functions of every planner read missing columns as null, as far as they read columns
by their place. -/
theorem readsMissingAsNull (planner : Planner) : planner.ReadsMissingAsNull where
  select {input items before after node} h := by
    obtain ⟨draft, hdraft, -, rfl, -⟩ := exec_carryOut_eq_ok_iff.1 h
    obtain ⟨compiled, hcompiled, -, rfl⟩ := draftSelect_eq_ok_iff.1 hdraft
    exact ⟨_, rfl, fun row =>
      congrArg some (Projection.applyRow_eq hcompiled (row.readsLike_padTo _))⟩
  filter {input e before after node} h := by
    obtain ⟨draft, hdraft, -, rfl, -⟩ := exec_carryOut_eq_ok_iff.1 h
    obtain ⟨predicate, hpredicate, rfl⟩ := draftFilter_eq_ok_iff.1 hdraft
    exact ⟨_, rfl, fun key row haside => Predicate.test_padTo hpredicate haside⟩
  groupBy h hkey row :=
    GroupKey.keyFor_eq_of_readsLike (groupKey_eq_some h hkey) (row.readsLike_padTo _)
  rekey {input request updateRowKey before after node} h := by
    rcases exec_rekey_eq_ok_iff.1 h with
      ⟨-, hnode, hafter⟩ | ⟨-, -, rekey, ⟨-, hindex⟩, rfl, -⟩
    · exact Or.inl ⟨hnode, hafter⟩
    · refine Or.inr ⟨rekey, rfl, fun row => ?_⟩
      have hrows := row.readsLike_padTo input.schema.width
      exact ⟨rekey.accepts_eq hrows, rekey.keyFor_eq hrows, rekey.updateRow_padTo row _,
        rekey.readsLike_updateRow_padTo_iff row fun i hi => lt_width_of_rowKeyIndex hindex hi⟩
  join {left right request before after node} h := by
    obtain ⟨draft, hdraft, -, rfl, -⟩ := exec_carryOut_eq_ok_iff.1 h
    obtain ⟨-, -, key, call, -, -, rfl⟩ := draftJoin_eq_ok_iff.1 hdraft
    refine ⟨_, rfl, Joiner.join_padTo_eq_iff _, fun l r => ?_, fun l r =>
      Joiner.readsLike_join_padTo_left_iff _ l r _⟩
    rw [Joiner.join_padTo_right]
    exact Row.readsLike_padTo _ _
  aggregate {grouped items before after node} h := by
    obtain ⟨draft, hdraft, -, rfl, -⟩ := exec_carryOut_eq_ok_iff.1 h
    obtain ⟨compiled, aggregator, hcompiled, rfl, -, rfl⟩ := draftAggregate_eq_ok_iff.1 hdraft
    exact ⟨_, rfl, fun key row aggregate =>
      Aggregator.fold_eq hcompiled (row.readsLike_padTo _) _ _ key aggregate⟩

/-! ## Operations that tell a short row apart -/

/-- Readings in windows: a sensor and a number. -/
def windowedReadings : PlanNode :=
  .source ⟨⟨0⟩, ⟨[⟨"SENSOR", .int32⟩, ⟨"N", .int64⟩]⟩, none, .windowed, ⟨.stream, .source⟩⟩
    "readings"

/-- Orders with a column for the record key at the end. -/
def ordersWithoutKey : PlanNode :=
  .source ⟨⟨1⟩, ⟨[⟨"ORDERID", .int32⟩, ⟨"ROWKEY", .utf8⟩]⟩, none, .plain, ⟨.stream, .source⟩⟩
    "orders"

/-- Items under the key that orders are joined on. -/
def itemTable : PlanNode :=
  .source ⟨⟨2⟩, ⟨[⟨"ITEM", .int32⟩]⟩, none, .plain, ⟨.table, .source⟩⟩ "items"

/-- The join of orders and items. -/
def ordersWithItems : JoinRequest where
  kind := .inner
  schema := ordersWithoutKey.schema.append itemTable.schema
  keyField := some ⟨"ORDERID", some 0, .int32⟩
  window := none
  leftEncoding := "json"
  rightEncoding := "json"

/-- Of a row that lacks its second column, a filter over windowed keys reads the start of the
window there, a rekey leaves the column of the record key out, and a join puts the right row
there.  Of the row with a null in that column none does. -/
theorem short_rows_differ :
    (∃ node after keep,
      (standard.filter windowedReadings (.compare .ge (.column ⟨none, "N"⟩) (.literal (.int64 1000)))).exec
          .empty = (.ok node, after) ∧
        node.pipeline = .filter .source keep ∧
        keep (.windowed (.utf8 "k") ⟨2000, 3000⟩) (some ⟨[.int32 5]⟩) = true ∧
        keep (.windowed (.utf8 "k") ⟨2000, 3000⟩) (some ⟨[.int32 5, .null]⟩) = false) ∧
      (∃ node after change,
        (standard.rekey ordersWithoutKey ⟨"ORDERID", some 0, .int32⟩ true).exec .empty =
            (.ok node, after) ∧
          (∃ keyed, node.pipeline = .map keyed change) ∧
          change (some ⟨[.int32 7]⟩) = some ⟨[.int32 7]⟩ ∧
          change (some ⟨[.int32 7, .null]⟩) = some ⟨[.int32 7, .utf8 "7"]⟩) ∧
      ∃ node after joiner,
        (standard.join ordersWithoutKey itemTable ordersWithItems).exec .empty = (.ok node, after) ∧
          node.pipeline = .join joiner ∧
          joiner.join (some ⟨[.int32 7]⟩) (some ⟨[.int32 3]⟩) = ⟨[.int32 7, .int32 3]⟩ ∧
          joiner.join (some ⟨[.int32 7, .null]⟩) (some ⟨[.int32 3]⟩) =
            ⟨[.int32 7, .null, .int32 3]⟩ :=
  ⟨⟨_, _, _, rfl, rfl, rfl, rfl⟩, ⟨_, _, _, rfl, ⟨_, rfl⟩, rfl, rfl⟩,
    ⟨_, _, _, rfl, rfl, rfl, rfl⟩⟩

end Planner

end StreamPlan
