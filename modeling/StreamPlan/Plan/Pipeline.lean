import StreamPlan.Aggregation
import StreamPlan.Record
import StreamPlan.RowFunction.GroupKey
import StreamPlan.RowFunction.Joiner

/-!
# Pipelines

What a plan asks of the engine: where records come from and the row functions
they pass, one record at a time.  A pipeline is a stream or a table.

Main results:

- `Pipeline.run`: the records that leave a pipeline.
- `Pipeline.run_append`: records are handled one by one.
-/

namespace StreamPlan

/-- The origin of records and the row functions they pass. -/
inductive Pipeline where
  /-- Records read from a topic. -/
  | source
  /-- Rows of two sides merged by a joiner. -/
  | join (joiner : Joiner)
  /-- Aggregate rows of the groups of an input; without a grouping key the records keep
  their own. -/
  | aggregate (input : Pipeline) (groupKey : Option GroupKey) (aggregator : Aggregator)
  /-- The records that a predicate keeps. -/
  | filter (input : Pipeline) (keep : RecordKey → Option Row → Bool)
  /-- The records with their rows replaced. -/
  | map (input : Pipeline) (change : Option Row → Option Row)
  /-- The records that have a row, under a new plain key. -/
  | selectKey (input : Pipeline) (key : Row → Value)
  /-- The changes of a table. -/
  | changelog (input : Pipeline)

namespace Pipeline

/-- A record under the plain key of its row; nothing without a row. -/
def rekeyed? (key : Row → Value) (record : Record) : Option Record :=
  record.row.map fun row => ⟨.plain (key row), some row⟩

/-- The records that leave a pipeline when `records` leave its origin. -/
def run : Pipeline → List Record → List Record
  | source, records => records
  | join _, records => records
  | aggregate .., records => records
  | filter input keep, records =>
    (input.run records).filter fun record => keep record.key record.row
  | map input change, records =>
    (input.run records).map fun record => ⟨record.key, change record.row⟩
  | selectKey input key, records => (input.run records).filterMap (rekeyed? key)
  | changelog input, records => input.run records

/-- The joiner at the origin of a pipeline. -/
def joiner? : Pipeline → Option Joiner
  | join joiner => some joiner
  | source | aggregate .. => none
  | filter input _ | map input _ | selectKey input _ | changelog input => input.joiner?

/-- A grouped input and its aggregation. -/
structure Grouping where
  input : Pipeline
  groupKey : Option GroupKey
  aggregator : Aggregator

/-- The aggregation at the origin of a pipeline. -/
def grouping? : Pipeline → Option Grouping
  | aggregate input groupKey aggregator => some ⟨input, groupKey, aggregator⟩
  | source | join _ => none
  | filter input _ | map input _ | selectKey input _ | changelog input => input.grouping?

/-- Records are handled one by one. -/
theorem run_append (pipeline : Pipeline) (xs ys : List Record) :
    pipeline.run (xs ++ ys) = pipeline.run xs ++ pipeline.run ys := by
  induction pipeline with
  | source | join | aggregate => rfl
  | filter input keep ih => simp [run, ih]
  | map input change ih => simp [run, ih]
  | selectKey input key ih => simp [run, ih]
  | changelog input ih => simp [run, ih]

/-! ## Merging and folding -/

/-- What a join makes of a pair of rows: the merged row, and the records that leave the
pipeline for it. -/
structure Merge where
  row : Row
  out : List Record

/-- The two sides of a join under a key; either may be missing. -/
structure Sides where
  key : RecordKey
  left : Option Row
  right : Option Row

/-- Merge two sides, when the pipeline starts with a join. -/
def merge? (pipeline : Pipeline) (sides : Sides) : Option Merge :=
  pipeline.joiner?.map fun joiner =>
    let row := joiner.join sides.left sides.right
    ⟨row, pipeline.run [⟨sides.key, some row⟩]⟩

/-- Merge pairs of sides one after the other; a pipeline that does not start with a join
can merge none. -/
def mergeAll? (pipeline : Pipeline) (pairs : List Sides) : Option (List Merge) :=
  pairs.mapM pipeline.merge?

/-- Aggregate rows by the text of their group's key. -/
abbrev Store := List (String × Row)

/-- The aggregate row under a text. -/
def Store.find? (text : String) : Store → Option Row
  | [] => none
  | entry :: rest => if entry.1 = text then some entry.2 else Store.find? text rest

/-- Replace the aggregate row under a text. -/
def Store.insert (text : String) (row : Row) : Store → Store
  | [] => [(text, row)]
  | entry :: rest =>
    if entry.1 = text then (text, row) :: rest else entry :: Store.insert text row rest

/-- What an aggregation makes of one grouped record. -/
inductive FoldStep where
  /-- The record has no row. -/
  | skipped
  /-- A group has a new aggregate row, and records leave the pipeline for it. -/
  | updated (key : RecordKey) (aggregate : Row) (out : List Record)

/-- The key of the group of a record with a row. -/
def groupKeyOf (groupKey : Option GroupKey) (record : Record) (row : Row) : RecordKey :=
  match groupKey with
  | some key => .plain (key.keyFor row)
  | none => record.key

/-- Fold one grouped record into its group. -/
def foldRecord (pipeline : Pipeline) (grouping : Grouping) (store : Store) (record : Record) :
    Store × FoldStep :=
  match record.row with
  | none => (store, .skipped)
  | some row =>
    let key := groupKeyOf grouping.groupKey record row
    let current := (Store.find? key.text store).getD grouping.aggregator.initial
    let next := grouping.aggregator.fold key.value row current
    (Store.insert key.text next store, .updated key next (pipeline.run [⟨key, some next⟩]))

/-- Fold grouped records one after the other. -/
def foldGrouped (pipeline : Pipeline) (grouping : Grouping) :
    Store → List Record → Store × List FoldStep
  | store, [] => (store, [])
  | store, record :: rest =>
    let (store, step) := foldRecord pipeline grouping store record
    let (store, steps) := foldGrouped pipeline grouping store rest
    (store, step :: steps)

/-- Fold input records one after the other, each through the grouped input first. -/
def foldInputs (pipeline : Pipeline) (grouping : Grouping) :
    Store → List Record → List (List FoldStep)
  | _, [] => []
  | store, record :: rest =>
    let (store, steps) := foldGrouped pipeline grouping store (grouping.input.run [record])
    steps :: foldInputs pipeline grouping store rest

/-- What an aggregation makes of input records, when the pipeline starts with one. -/
def fold? (pipeline : Pipeline) (records : List Record) : Option (List (List FoldStep)) :=
  pipeline.grouping?.map fun grouping => foldInputs pipeline grouping [] records

end Pipeline

end StreamPlan
