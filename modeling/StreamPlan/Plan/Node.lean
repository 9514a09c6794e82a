import StreamPlan.Join
import StreamPlan.Plan.NodeId
import StreamPlan.Plan.Pipeline
import StreamPlan.RowFunction.Predicate
import StreamPlan.RowFunction.Projection
import StreamPlan.RowFunction.Rekey

/-!
# Plan nodes

A node is one operator of a plan with its inputs, the schema and key of what it
yields, and the pipeline it was lowered to.

Main results:

- `PlanNode.head`, `PlanNode.inputs`: the parts of a node.
- `PlanNode.debugText`: a node in messages.
-/

namespace StreamPlan

/-- Whether a dataflow holds a stream of records or a table. -/
inductive Form where
  | stream
  | table
deriving DecidableEq, Repr

/-- The word for a form. -/
def Form.text : Form → String
  | .stream => "stream"
  | .table => "table"

/-- A pipeline and its form. -/
structure Dataflow where
  form : Form
  pipeline : Pipeline

/-- What every node has. -/
structure NodeHead where
  id : NodeId
  schema : Schema
  keyField : Option KeyField
  keyFormat : KeyFormat
  dataflow : Dataflow

/-- The operators of a plan, and the mark of an attached sink. -/
inductive PlanKind where
  | source
  | project
  | filter
  | aggregate
  | sink
  | rekey
  | join
  | toStream
deriving DecidableEq, Repr

/-- The word for an operator in plan dumps. -/
def PlanKind.text : PlanKind → String
  | source => "SOURCE"
  | project => "PROJECT"
  | filter => "FILTER"
  | aggregate => "AGGREGATE"
  | sink => "SINK"
  | rekey => "REKEY"
  | join => "JOIN"
  | toStream => "TOSTREAM"

/-- The name of an operator in messages. -/
def PlanKind.name : PlanKind → String
  | source => "Source"
  | project => "Project"
  | filter => "Filter"
  | aggregate => "Aggregate"
  | sink => "Sink"
  | rekey => "Rekey"
  | join => "Join"
  | toStream => "ToStream"

/-- A node of a plan. -/
inductive PlanNode where
  | source (head : NodeHead) (topic : String)
  | project (head : NodeHead) (input : PlanNode) (projection : Projection)
  | filter (head : NodeHead) (input : PlanNode) (predicate : Predicate)
  | rekey (head : NodeHead) (input : PlanNode) (rekey : Rekey)
  | join (head : NodeHead) (left right : PlanNode) (kind : JoinKind)
      (window : Option JoinWindow) (joiner : Joiner)
  /-- Without a grouping key the input was grouped on the key it had. -/
  | aggregate (head : NodeHead) (input : PlanNode) (groupKey : Option GroupKey)
      (aggregator : Aggregator)
  | toStream (head : NodeHead) (input : PlanNode)

namespace PlanNode

/-- What every node has. -/
def head : PlanNode → NodeHead
  | source head _ => head
  | project head .. => head
  | filter head .. => head
  | rekey head .. => head
  | join head .. => head
  | aggregate head .. => head
  | toStream head _ => head

/-- The operator of a node. -/
def kind : PlanNode → PlanKind
  | source .. => .source
  | project .. => .project
  | filter .. => .filter
  | rekey .. => .rekey
  | join .. => .join
  | aggregate .. => .aggregate
  | toStream .. => .toStream

/-- The inputs of a node, left before right. -/
def inputs : PlanNode → List PlanNode
  | source .. => []
  | project _ input _ => [input]
  | filter _ input _ => [input]
  | rekey _ input _ => [input]
  | join _ left right .. => [left, right]
  | aggregate _ input .. => [input]
  | toStream _ input => [input]

/-- The identity of a node. -/
def id (node : PlanNode) : NodeId := node.head.id

/-- The schema of the rows a node yields. -/
def schema (node : PlanNode) : Schema := node.head.schema

/-- The key of the records a node yields, if they have one. -/
def keyField (node : PlanNode) : Option KeyField := node.head.keyField

/-- The format of the record keys. -/
def keyFormat (node : PlanNode) : KeyFormat := node.head.keyFormat

/-- Whether a node yields a stream or a table. -/
def form (node : PlanNode) : Form := node.head.dataflow.form

/-- The pipeline a node was lowered to. -/
def pipeline (node : PlanNode) : Pipeline := node.head.dataflow.pipeline

/-- Whether a node yields a table. -/
def isTable (node : PlanNode) : Bool := node.form == .table

/-- A node in messages. -/
def debugText (node : PlanNode) : String :=
  "PlanNode \x7b id: " ++ node.id.debugText ++ ", kind: " ++ node.kind.name ++ ", form: " ++
    Text.quoted node.form.text ++ ", schema: " ++ Text.quoted node.schema.text ++
    ", key_field: " ++ Text.optionText (fun key => Text.quoted key.text) node.keyField ++
    ", key_format: " ++ node.keyFormat.text ++ ", upstream: " ++
    Text.listText (fun input => input.id.debugText) node.inputs ++ " \x7d"

end PlanNode

/-- A stream grouped for aggregation: the grouped node, the key of the groups, and the
records the engine groups.  A grouping key is there when grouping repartitions. -/
structure GroupedStream where
  source : PlanNode
  keyField : KeyField
  keyFormat : KeyFormat
  groupKey : Option GroupKey
  pipeline : Pipeline

namespace GroupedStream

/-- Whether grouping repartitions the stream. -/
def isRepartitioned (grouped : GroupedStream) : Bool := grouped.groupKey.isSome

/-- A grouped stream in messages. -/
def debugText (grouped : GroupedStream) : String :=
  "GroupedStream \x7b source: " ++ grouped.source.id.debugText ++ ", key_field: " ++
    Text.quoted grouped.keyField.text ++ ", key_format: " ++ grouped.keyFormat.text ++
    ", repartitioned: " ++ (if grouped.isRepartitioned then "true" else "false") ++ " \x7d"

/-- The records that are grouped, each with the value of its grouping key; a record
without a row keeps its own. -/
def run (grouped : GroupedStream) (records : List Record) : List (Value × Option Row) :=
  (grouped.pipeline.run records).map fun record =>
    match grouped.groupKey, record.row with
    | some key, some row => (key.keyFor row, some row)
    | _, row => (record.key.value, row)

end GroupedStream

end StreamPlan
