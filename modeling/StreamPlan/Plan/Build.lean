import StreamPlan.Plan.Draft

/-!
# Building plans

The operations of a planning session: one call per node, grouping or sink.  Each one
is drafted, then the engine is called, and only then the session gains a node or a
sink.

Main results:

- `Planner.sourceStream`, `Planner.sourceTable`, `Planner.select`, `Planner.filter`,
  `Planner.rekey`, `Planner.join`, `Planner.groupBy`, `Planner.aggregate`,
  `Planner.toStream`, `Planner.intoSink`: the operations.
-/

namespace StreamPlan

/-- What the caller says about a sink; counts that are not set take the configured
defaults. -/
structure SinkRequest where
  topic : String
  encoding : String
  dropped : IndexSet
  partitions : Option UInt32
  replicas : Option UInt16

namespace Planner

/-! ## Nodes -/

/-- Check a draft, then carry it out. -/
def carryOut (planner : Planner) (draft : Except Error Draft) : Build PlanNode := do
  let draft ← Build.ofExcept draft
  planner.commit draft

/-- A stream read from a topic. -/
def sourceStream (planner : Planner) (topic : String) (schema : Schema)
    (key : Option KeyField) (format : KeyFormat) : Build PlanNode :=
  planner.carryOut (draftSource .stream topic schema key format)

/-- A table read from a topic. -/
def sourceTable (planner : Planner) (topic : String) (schema : Schema)
    (key : Option KeyField) (format : KeyFormat) : Build PlanNode :=
  planner.carryOut (draftSource .table topic schema key format)

/-- Project items over every row of a node. -/
def select (planner : Planner) (input : PlanNode) (items : List SelectItem) : Build PlanNode :=
  planner.carryOut (planner.draftSelect input items)

/-- Keep the rows of a node for which an expression is true. -/
def filter (planner : Planner) (input : PlanNode) (e : Expr) : Build PlanNode :=
  planner.carryOut (planner.draftFilter input e)

/-- Key a stream by one of its columns.  A node that is keyed by that name already is
returned as it is. -/
def rekey (planner : Planner) (input : PlanNode) (key : KeyField) (updateRowKey : Bool) :
    Build PlanNode :=
  if input.isKeyedBy key.name then pure input
  else planner.carryOut (planner.draftRekey input key updateRowKey)

/-- Join a stream with a table or, given a window, with another stream. -/
def join (planner : Planner) (left right : PlanNode) (request : JoinRequest) :
    Build PlanNode :=
  planner.carryOut (draftJoin left right request)

/-- Aggregate a grouped stream into a table. -/
def aggregate (planner : Planner) (grouped : GroupedStream) (items : List AggregateItem) :
    Build PlanNode :=
  planner.carryOut (planner.draftAggregate grouped items)

/-- The changes of a table as a stream. -/
def toStream (planner : Planner) (input : PlanNode) : Build PlanNode :=
  planner.carryOut (draftToStream input)

/-! ## Groupings and sinks -/

/-- Group a stream for aggregation. -/
def groupBy (planner : Planner) (input : PlanNode) (parts : List Expr) (encoding : String) :
    Build GroupedStream := do
  let draft ← Build.ofExcept (planner.draftGroup input parts encoding)
  planner.callAll draft.calls
  return draft.grouped

/-- The pipeline that writes a node, without some of its columns. -/
def sinkPipeline (input : PlanNode) (columns : SinkColumns) : Pipeline :=
  match input.form with
  | .stream => .map input.pipeline columns.apply
  | .table => .map (.changelog input.pipeline) columns.apply

/-- The calls that write a node to a topic. -/
def sinkCalls (input : PlanNode) (topic : SinkTopic) : List EngineCall :=
  match input.form with
  | .stream => [.mapValues, .toSink topic]
  | .table => [.tableToStream, .mapValues, .toSink topic]

/-- The sink that a request describes. -/
def sinkFor (planner : Planner) (input : PlanNode) (request : SinkRequest) : SinkAttachment where
  node := input.id
  topic := request.topic
  encoding := request.encoding
  dropped := request.dropped
  partitions := request.partitions.getD planner.config.sinkPartitions
  replicas := request.replicas.getD planner.config.sinkReplicas
  schema := SinkColumns.applySchema ⟨request.dropped⟩ input.schema

/-- Refuse a second sink of a node and columns that are not there. -/
def requireSink (session : Session) (input : PlanNode) (request : SinkRequest) :
    Except Error Unit :=
  match session.sinkOf? input.id with
  | some sink => .error (.shape (.alreadyWritten input.id sink.topic))
  | none =>
    match request.dropped.firstBeyond? input.schema.width with
    | some i => .error (.key (.rowKeyOutside i input.schema))
    | none => .ok ()

/-- Write a node to a topic, without the requested columns. -/
def intoSink (planner : Planner) (input : PlanNode) (request : SinkRequest) :
    Build SinkAttachment := do
  Build.ofExcept (requireSink (← get) input request)
  let sink := planner.sinkFor input request
  planner.callAll (sinkCalls input ⟨sink.topic, sink.encoding, sink.partitions, sink.replicas⟩)
  modify fun session =>
    { session with
      sinks := insertSink sink session.sinks
      written := session.written ++ [(sink.topic, sinkPipeline input ⟨request.dropped⟩)] }
  return sink

end Planner

end StreamPlan
