import StreamPlan.Proofs.Plan.KeyReuse

/-!
# Tombstones before a grouping

A record without a row has no group.  A grouping on values drops such records before they are
grouped; a grouping on the key that a stream has groups what the stream yields.  There a
filter or a rekey upstream has dropped the tombstones, or they reach the grouping, since
projections and the changes of a table pass them on.

Main results:

- `AllRows`: records that all have a row.
- `PlanNode.DropsTombstones`: nodes with a filter or rekey upstream.
- `NodeCall.passesTombstones`: what a call makes of tombstones.
- `Pipeline.skipped_notMem_foldInputs_iff`: when a fold meets no tombstone.
- `Planner.Reaches.rowsOnly_iff`: when no tombstone reaches a grouping of a run.
-/

namespace StreamPlan

/-- Every record has a row. -/
def AllRows (records : List Record) : Prop := ∀ record ∈ records, record.row.isSome = true

/-- Two lists of records have rows together when each has. -/
theorem allRows_append {xs ys : List Record} : AllRows (xs ++ ys) ↔ AllRows xs ∧ AllRows ys :=
  List.forall_mem_append

namespace Pipeline

/-! ## Tombstones in a pipeline -/

/-- Nothing leaves a pipeline that nothing enters. -/
@[simp] theorem run_nil (pipeline : Pipeline) : pipeline.run [] = [] := by
  have htwice := run_append pipeline [] []
  rwa [List.append_nil, List.self_eq_append_left] at htwice

/-- A filter that does not keep tombstones yields none. -/
theorem allRows_run_filter (input : Pipeline) {keep : RecordKey → Option Row → Bool}
    (hkeep : ∀ key, keep key none = false) (records : List Record) :
    AllRows ((filter input keep).run records) := by
  rintro ⟨key, _ | row⟩ hrecord
  · have hkept := (List.mem_filter.1 hrecord).2
    exact absurd hkept (Bool.eq_false_iff.1 (hkeep key))
  · rfl

/-- Records under a new key have a row. -/
theorem allRows_run_selectKey (input : Pipeline) (key : Row → Value) (records : List Record) :
    AllRows ((selectKey input key).run records) := by
  intro record hrecord
  obtain ⟨source, -, hrekeyed⟩ := List.mem_filterMap.1 hrecord
  obtain ⟨row, -, rfl⟩ := Option.map_eq_some_iff.1 hrekeyed
  rfl

/-- Where rows are replaced by rows, a tombstone stays one and nothing else becomes one. -/
theorem allRows_run_map_iff {input : Pipeline} {change : Row → Row} {records : List Record} :
    AllRows ((map input (Option.map change)).run records) ↔ AllRows (input.run records) := by
  constructor
  · intro h record hrecord
    have hmapped := h _ (List.mem_map_of_mem hrecord)
    rwa [Option.isSome_map] at hmapped
  · intro h record hrecord
    obtain ⟨source, hsource, rfl⟩ := List.mem_map.1 hrecord
    rw [Option.isSome_map]
    exact h source hsource

/-! ## Tombstones in a fold -/

/-- A fold skips a record exactly when it is a tombstone. -/
theorem foldRecord_eq_skipped_iff {pipeline : Pipeline} {grouping : Grouping} {store : Store}
    {record : Record} :
    (foldRecord pipeline grouping store record).2 = .skipped ↔ record.row = none := by
  obtain ⟨key, _ | row⟩ := record
  · exact iff_of_true rfl rfl
  · exact iff_of_false nofun nofun

/-- A fold of grouped records skips none of them exactly when all have a row. -/
theorem skipped_notMem_foldGrouped_iff {pipeline : Pipeline} {grouping : Grouping}
    {store : Store} {records : List Record} :
    .skipped ∉ (foldGrouped pipeline grouping store records).2 ↔ AllRows records := by
  induction records generalizing store with
  | nil => exact iff_of_true nofun nofun
  | cons record rest ih =>
    rw [foldGrouped, List.mem_cons, not_or, ih, eq_comm, foldRecord_eq_skipped_iff, AllRows,
      AllRows, List.forall_mem_cons, Option.isSome_iff_ne_none]

/-- A fold of inputs, each through the grouped input first, skips no record exactly when all
records that the grouped input yields have a row. -/
theorem skipped_notMem_foldInputs_iff {pipeline : Pipeline} {grouping : Grouping}
    {store : Store} {records : List Record} :
    (∀ steps ∈ foldInputs pipeline grouping store records, .skipped ∉ steps) ↔
      AllRows (grouping.input.run records) := by
  induction records generalizing store with
  | nil =>
    rw [run_nil]
    exact iff_of_true nofun nofun
  | cons record rest ih =>
    have hsplit : grouping.input.run (record :: rest) =
        grouping.input.run [record] ++ grouping.input.run rest := run_append _ [record] rest
    rw [foldInputs, List.forall_mem_cons, skipped_notMem_foldGrouped_iff, ih, hsplit,
      allRows_append]

end Pipeline

/-! ## Tombstones in a plan -/

namespace PlanNode

/-- A filter or a rekey stands between a node and the origin of its records. -/
def DropsTombstones : PlanNode → Prop
  | filter .. => True
  | rekey .. => True
  | project _ input _ => input.DropsTombstones
  | toStream _ input => input.DropsTombstones
  | source .. => False
  | join .. => False
  | aggregate .. => False

/-- The records that leave a node all have a row exactly when those that enter its pipeline
have one, unless tombstones are dropped on the way. -/
def PassesTombstones (node : PlanNode) : Prop :=
  ∀ records, AllRows (node.pipeline.run records) ↔ node.DropsTombstones ∨ AllRows records

end PlanNode

/-- If the inputs of a call pass tombstones on or drop them, so does its node. -/
theorem NodeCall.passesTombstones {planner : Planner} {call : NodeCall} {node : PlanNode}
    (hinputs : ∀ input ∈ call.inputs, input.PassesTombstones)
    (hmakes : call.Makes planner node) : node.PassesTombstones := by
  obtain ⟨draft, id, hdraft, rfl⟩ := hmakes
  intro records
  cases call with
  | source form topic schema key format =>
    obtain ⟨-, rfl⟩ := Planner.draftSource_eq_ok_iff.1 hdraft
    exact (or_iff_right not_false).symm
  | select input items =>
    obtain ⟨compiled, -, -, rfl⟩ := Planner.draftSelect_eq_ok_iff.1 hdraft
    exact Pipeline.allRows_run_map_iff.trans (hinputs input (List.mem_singleton_self input) records)
  | filter input e =>
    obtain ⟨predicate, -, rfl⟩ := Planner.draftFilter_eq_ok_iff.1 hdraft
    exact iff_of_true (Pipeline.allRows_run_filter _ predicate.test_none records) (Or.inl trivial)
  | rekey input key updateRowKey =>
    obtain ⟨-, index, rowKeyIndex, -, -, rfl⟩ := Planner.draftRekey_eq_ok_iff.1 hdraft
    refine iff_of_true ?_ (Or.inl trivial)
    change AllRows ((Planner.rekeyPipeline ⟨index, rowKeyIndex⟩ input.pipeline).run records)
    unfold Planner.rekeyPipeline
    split
    · exact Pipeline.allRows_run_map_iff.2 (Pipeline.allRows_run_selectKey _ _ records)
    · exact Pipeline.allRows_run_selectKey _ _ records
  | join left right request =>
    obtain ⟨-, -, _, _, -, -, rfl⟩ := Planner.draftJoin_eq_ok_iff.1 hdraft
    exact (or_iff_right not_false).symm
  | aggregate grouped items =>
    obtain ⟨_, _, -, -, -, rfl⟩ := Planner.draftAggregate_eq_ok_iff.1 hdraft
    exact (or_iff_right not_false).symm
  | toStream input =>
    obtain ⟨-, rfl⟩ := Planner.draftToStream_eq_ok_iff.1 hdraft
    exact hinputs input (List.mem_singleton_self input) records

/-- No tombstone of these records reaches a grouping: it repartitions, or tombstones are
dropped upstream, or there is none. -/
def GroupedStream.RowsOnly (grouped : GroupedStream) (records : List Record) : Prop :=
  grouped.isRepartitioned = true ∨ grouped.source.DropsTombstones ∨ AllRows records

namespace Planner

variable {planner : Planner} {history : History} {grouped : GroupedStream}

/-- A grouping on the values of a list repartitions, and its records have a row. -/
theorem allRows_of_groupOnValues {input : PlanNode} {parts : List Expr} {encoding : String}
    {draft : GroupDraft} (h : planner.groupOnValues input parts encoding = .ok draft) :
    draft.grouped.isRepartitioned = true ∧
      ∀ records, AllRows (draft.grouped.pipeline.run records) := by
  unfold groupOnValues at h
  obtain ⟨compiled, -, heq⟩ := bind_eq_ok_iff.1 h
  obtain rfl := Except.ok.inj heq
  exact ⟨rfl, Pipeline.allRows_run_filter _ fun _ => rfl⟩

/-- Tombstones reach a drafted grouping as they reach the node it groups, unless it
repartitions. -/
theorem allRows_run_iff_of_drafted (hdrafted : grouped.Drafted planner)
    (hsource : grouped.source.PassesTombstones) (records : List Record) :
    AllRows (grouped.pipeline.run records) ↔ grouped.RowsOnly records := by
  obtain ⟨input, parts, encoding, draft, hdraft, rfl⟩ := hdrafted
  obtain ⟨-, -, ⟨key, -, -, rfl⟩ | ⟨-, hvalues⟩⟩ := draftGroup_eq_ok_iff.1 hdraft
  · exact (hsource records).trans (or_iff_right Bool.false_ne_true).symm
  · obtain ⟨hrepartitioned, hrows⟩ := allRows_of_groupOnValues hvalues
    exact iff_of_true (hrows records) (Or.inl hrepartitioned)

/-- The table of an aggregation folds the records of its grouping. -/
theorem fold?_of_exec_aggregate {items : List AggregateItem} {before after : Session}
    {table : PlanNode}
    (h : (planner.aggregate grouped items).exec before = (.ok table, after))
    (records : List Record) :
    ∃ aggregator, table.pipeline.fold? records =
      some (Pipeline.foldInputs table.pipeline
        ⟨grouped.pipeline, grouped.groupKey, aggregator⟩ [] records) := by
  obtain ⟨draft, hdraft, -, rfl, -⟩ := exec_carryOut_eq_ok_iff.1 h
  obtain ⟨_, aggregator, -, -, -, rfl⟩ := draftAggregate_eq_ok_iff.1 hdraft
  exact ⟨aggregator, rfl⟩

/-- In every run, whatever records enter the plan, those that reach a grouping all have a row,
and the fold of an aggregation of it meets no tombstone, exactly when the grouping
repartitions, or a filter or rekey upstream drops the tombstones, or none enters the plan. -/
theorem Reaches.rowsOnly_iff (h : planner.Reaches history)
    (hgrouped : grouped ∈ history.groups) (records : List Record) :
    (AllRows (grouped.pipeline.run records) ↔ grouped.RowsOnly records) ∧
      ∀ items before after table,
        (planner.aggregate grouped items).exec before = (.ok table, after) →
        ∃ folded, table.pipeline.fold? records = some folded ∧
          ((∀ steps ∈ folded, .skipped ∉ steps) ↔ grouped.RowsOnly records) := by
  have hpasses : ∀ node ∈ history.nodes, node.PassesTombstones :=
    h.forall_nodes fun _ _ => NodeCall.passesTombstones
  have hrows := allRows_run_iff_of_drafted (h.drafted grouped hgrouped)
    (hpasses _ (h.source_mem grouped hgrouped)) records
  refine ⟨hrows, fun items before after table htable => ?_⟩
  obtain ⟨aggregator, hfold⟩ := fold?_of_exec_aggregate htable records
  exact ⟨_, hfold, Pipeline.skipped_notMem_foldInputs_iff.trans hrows⟩

/-! ## Deleted orders -/

/-- The orders with a number. -/
def numberedOrders : PlanNode :=
  let predicate : Predicate :=
    ⟨⟨.isNotNull (.column ⟨none, "ORDERID"⟩), orders.schema, .isNull (.column 1 .int32) true⟩, []⟩
  .filter
    ⟨⟨1⟩, orders.schema, orders.keyField, .plain, ⟨.stream, .filter .source predicate.test⟩⟩ orders
    predicate

/-- The calls that read the orders, keep those with a number, and group both streams on their
key. -/
def groupingCalls : List PlanCall :=
  [.node (.source .stream "orders" orders.schema orders.keyField .plain),
    .node (.filter orders (.isNotNull (.column ⟨none, "ORDERID"⟩))),
    .groupBy orders [.column ⟨none, "ROWKEY"⟩] "json",
    .groupBy numberedOrders [.column ⟨none, "ROWKEY"⟩] "json"]

/-- The calls are a run. -/
theorem reaches_groupingCalls :
    standard.Reaches (groupingCalls.foldl standard.advance .start) := by
  refine Reaches.start.foldl ⟨nofun, ?_, ?_, ?_, trivial⟩
  · intro input hinput
    obtain rfl := List.mem_singleton.1 hinput
    exact List.mem_singleton_self orders
  · exact List.mem_cons_self
  · exact List.mem_cons_of_mem _ (List.mem_singleton_self numberedOrders)

/-- An order, and the deletion of another. -/
def orderAndDeletion : List Record := [firstOrder, ⟨.plain (.utf8 "b"), none⟩]

/-- Behind the filter only the order reaches the grouping on the key, and its fold. -/
theorem rowsOnly_numberedOrders :
    ∃ grouped ∈ (groupingCalls.foldl standard.advance .start).groups,
      grouped.source = numberedOrders ∧ grouped.isRepartitioned = false ∧
        ¬ AllRows orderAndDeletion ∧ AllRows (grouped.pipeline.run orderAndDeletion) ∧
        ∃ table after folded,
          (standard.aggregate grouped [⟨"N", .countAll⟩]).exec .empty = (.ok table, after) ∧
            table.pipeline.fold? orderAndDeletion = some folded ∧
            ∀ steps ∈ folded, .skipped ∉ steps := by
  obtain ⟨grouped, hgrouped, hsource, hreused, table, after, htable⟩ :
      ∃ grouped ∈ (groupingCalls.foldl standard.advance .start).groups,
        grouped.source = numberedOrders ∧ grouped.isRepartitioned = false ∧
          ∃ table after, (standard.aggregate grouped [⟨"N", .countAll⟩]).exec .empty =
            (.ok table, after) :=
    ⟨_, List.mem_of_getElem? (i := 1) rfl, rfl, rfl, _, _, rfl⟩
  have hdrops : grouped.RowsOnly orderAndDeletion := by
    refine Or.inr (Or.inl ?_)
    rw [hsource]
    trivial
  obtain ⟨hrows, hfolds⟩ :=
    reaches_groupingCalls.rowsOnly_iff hgrouped orderAndDeletion
  obtain ⟨folded, hfold, hskips⟩ := hfolds _ _ _ _ htable
  refine ⟨grouped, hgrouped, hsource, hreused, ?_, hrows.2 hdrops, table, after, folded, htable,
    hfold, hskips.2 hdrops⟩
  unfold AllRows
  decide

/-- Without the filter the deletion is grouped under its key as well. -/
theorem exists_grouped_tombstone :
    ∃ history, standard.Reaches history ∧ ∃ grouped ∈ history.groups,
      grouped.source = orders ∧ grouped.isRepartitioned = false ∧
        ⟨.plain (.utf8 "b"), none⟩ ∈ grouped.pipeline.run orderAndDeletion ∧
        (.utf8 "b", none) ∈ grouped.run orderAndDeletion :=
  ⟨_, reaches_groupingCalls, _, List.mem_of_getElem? (i := 0) rfl, rfl, rfl, by decide,
    by decide⟩

end Planner

end StreamPlan
