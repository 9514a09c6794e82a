import StreamPlan.Plan.Session

/-!
# Drafts of plan operations

Every operation on nodes is drafted first: names, types and keys are checked, and the
draft says which operators of the engine to call and what node to make.  Drafting
does not look at the session, so an operation that fails here leaves no trace.

Main results:

- `Planner.draftSource`, `Planner.draftSelect`, `Planner.draftFilter`,
  `Planner.draftRekey`, `Planner.draftJoin`, `Planner.draftAggregate`,
  `Planner.draftToStream`: the nodes.
- `Planner.draftGroup`: the grouping of a stream.
- `projectKey_of_synthetic`: a synthetic key passes every projection.
-/

namespace StreamPlan

/-- The call that filters a dataflow. -/
def Form.filterCall : Form → EngineCall
  | .stream => .filter
  | .table => .filterTable

/-- The call that replaces the rows of a dataflow. -/
def Form.mapCall : Form → EngineCall
  | .stream => .mapValues
  | .table => .mapTableValues

/-- The call that reads a topic. -/
def Form.sourceCall (topic : String) (schema : Schema) : Form → EngineCall
  | .stream => .streamSource topic schema.width
  | .table => .tableSource topic schema.width

namespace PlanNode

/-- Whether the records of a node are keyed by a name already. -/
def isKeyedBy (node : PlanNode) (name : String) : Bool :=
  match node.keyField with
  | some key => key.name == name
  | none => false

end PlanNode

/-! ## Checks -/

/-- Refuse a source with repeated names or with an indexed key that is not the column
it names. -/
def requireSource (schema : Schema) (key : Option KeyField) : Except Error Unit := do
  schema.requireDistinct
  match key with
  | none => .ok ()
  | some key =>
    match key.index with
    | none => .ok ()
    | some i =>
      if schema.fields[i]? = some ⟨key.name, key.type⟩ then .ok ()
      else .error (.key (.sourceKey key schema))

/-- The column that the name of a key means. -/
def resolveKey (schema : Schema) (name : String) : Except Error Nat :=
  (schema.resolve (ColumnRef.ofName name)).mapError (.unresolvedKey name schema)

/-- The key of a projection: a synthetic key as it is, any other key moved to the first
item that is a bare reference to it. -/
def projectKey (key : Option KeyField) (items : List SelectItem) : Option KeyField :=
  key.bind fun key =>
    if key.isSynthetic then some key
    else
      (items.findIdx? fun item =>
          match item.expr.asColumn? with
          | some column => key.matchesColumn column
          | none => false).map
        (key.relocated key.name)

/-- Whether grouping on a list can keep the partitioning by a key: the list is a single
bare reference with the name of the key. -/
def servesGrouping (key : KeyField) (parts : List Expr) : Bool :=
  match parts with
  | [only] =>
    match only.asColumn? with
    | some column => column.name == key.unaliasedName
    | none => false
  | _ => false

/-- A synthetic key passes every projection. -/
theorem projectKey_of_synthetic {key : KeyField} (h : key.isSynthetic = true)
    (items : List SelectItem) : projectKey (some key) items = some key := by
  simp [projectKey, h]

/-! ## Requests -/

/-- What the surrounding planner says about a join. -/
structure JoinRequest where
  kind : JoinKind
  schema : Schema
  keyField : Option KeyField
  window : Option JoinWindow
  leftEncoding : String
  rightEncoding : String

/-- A grouping: the calls it takes and the grouped stream. -/
structure GroupDraft where
  calls : List EngineCall
  grouped : GroupedStream

namespace Planner

/-! ## Nodes -/

/-- A stream or table read from a topic. -/
def draftSource (form : Form) (topic : String) (schema : Schema) (key : Option KeyField)
    (format : KeyFormat) : Except Error Draft := do
  requireSource schema key
  .ok
    { calls := [form.sourceCall topic schema]
      node := fun id => .source ⟨id, schema, key, format, ⟨form, .source⟩⟩ topic }

/-- The projection of a node. -/
def draftSelect (planner : Planner) (input : PlanNode) (items : List SelectItem) :
    Except Error Draft := do
  let compiled ←
    Expr.compileAll "Select" input.schema planner.functions (items.map (·.expr))
  let projection : Projection := ⟨(items.map (·.name)).zip compiled⟩
  let schema : Schema := ⟨projection.fields⟩
  schema.requireDistinct.mapError (·.withContext "Select")
  let dataflow : Dataflow := ⟨input.form, .map input.pipeline projection.apply⟩
  .ok
    { calls := [input.form.mapCall]
      node := fun id =>
        .project ⟨id, schema, projectKey input.keyField items, input.keyFormat, dataflow⟩ input
          projection }

/-- The records of a node that a filter keeps. -/
def draftFilter (planner : Planner) (input : PlanNode) (e : Expr) : Except Error Draft := do
  let predicate ←
    Predicate.compile planner.config planner.functions input.keyFormat.isWindowed
      input.schema e
  let dataflow : Dataflow := ⟨input.form, .filter input.pipeline predicate.test⟩
  .ok
    { calls := [input.form.filterCall]
      node := fun id =>
        .filter ⟨id, input.schema, input.keyField, input.keyFormat, dataflow⟩ input predicate }

/-- The column that takes the record key, when it is to be overwritten. -/
def rowKeyIndex (planner : Planner) (schema : Schema) (updateRowKey : Bool) :
    Except Error (Option Nat) :=
  if updateRowKey then
    match schema.indexOf? planner.config.keyColumn with
    | some i => .ok (some i)
    | none => .error (.key (.rowKeyMissing planner.config.keyColumn schema))
  else .ok none

/-- The pipeline of a rekey: drop records without a key value, set the key, and overwrite
the column of the record key if there is one. -/
def rekeyPipeline (rekey : Rekey) (input : Pipeline) : Pipeline :=
  let keyed : Pipeline := .selectKey (.filter input fun _ row => rekey.accepts row) rekey.keyFor
  if rekey.rowKeyIndex.isSome then .map keyed rekey.update else keyed

/-- A stream under the key that a column of it gives. -/
def draftRekey (planner : Planner) (input : PlanNode) (key : KeyField) (updateRowKey : Bool) :
    Except Error Draft := do
  if input.isTable then .error (.shape (.rekeyTable input.id))
  else
    let index ← resolveKey input.schema key.name
    let rowKeyIndex ← planner.rowKeyIndex input.schema updateRowKey
    let rekey : Rekey := ⟨index, rowKeyIndex⟩
    let field := input.schema.fieldAt index
    let newKey : KeyField := ⟨field.name, key.index.map fun _ => index, field.type⟩
    let dataflow : Dataflow := ⟨.stream, rekeyPipeline rekey input.pipeline⟩
    .ok
      { calls :=
          [.filter, .selectKey] ++ if rekey.rowKeyIndex.isSome then [.mapValues] else []
        node := fun id =>
          .rekey ⟨id, input.schema, some newKey, .plain, dataflow⟩ input rekey }

/-- The call that joins a stream with a table or another stream. -/
def joinCall (right : Form) (request : JoinRequest) : Except Error EngineCall :=
  match right, request.window with
  | .table, some _ => .error (.shape .tableJoinWindow)
  | .table, none =>
    if request.kind = .outer then .error (.shape .tableJoinOuter)
    else .ok (.streamTableJoin request.kind request.leftEncoding request.rightEncoding)
  | .stream, none => .error (.shape .streamJoinWithoutWindow)
  | .stream, some window =>
    .ok (.streamStreamJoin request.kind window request.leftEncoding request.rightEncoding)

/-- The key of a join, which has to be there and to be one of its columns if it is
indexed. -/
def joinKey (request : JoinRequest) : Except Error KeyField :=
  match request.keyField with
  | none => .error (.key .joinWithoutKey)
  | some key =>
    if key.index.any fun i => request.schema.width ≤ i then
      .error (.key (.joinKeyOutside key request.schema))
    else .ok key

/-- The join of a stream with a table or another stream. -/
def draftJoin (left right : PlanNode) (request : JoinRequest) : Except Error Draft := do
  if left.isTable then .error (.shape (.joinLeftTable left.id))
  else if request.schema ≠ left.schema.append right.schema then
    .error (.mismatch (.joinSchema request.schema left.schema right.schema))
  else
    let key ← joinKey request
    let call ← joinCall right.form request
    let joiner := Joiner.ofSchemas left.schema right.schema
    .ok
      { calls := [call]
        node := fun id =>
          .join ⟨id, request.schema, some key, left.keyFormat, ⟨.stream, .join joiner⟩⟩ left right
            request.kind request.window joiner }

/-- The table of aggregate rows of a grouped stream. -/
def draftAggregate (planner : Planner) (grouped : GroupedStream) (items : List AggregateItem) :
    Except Error Draft := do
  let key := grouped.keyField
  let compiled ← Aggregator.compile grouped.source.schema planner.functions items
  let aggregator := compiled.withKey key.index key.type
  let schema : Schema := ⟨⟨key.name, key.type⟩ :: aggregator.fields⟩
  schema.requireDistinct.mapError (·.withContext "Aggregate")
  let dataflow : Dataflow :=
    ⟨.table, .aggregate grouped.pipeline grouped.groupKey aggregator⟩
  .ok
    { calls := [.aggregate]
      node := fun id =>
        .aggregate ⟨id, schema, some ⟨key.name, some 0, key.type⟩, grouped.keyFormat, dataflow⟩
          grouped.source grouped.groupKey aggregator }

/-- The changes of a table as a stream. -/
def draftToStream (input : PlanNode) : Except Error Draft :=
  if input.isTable then
    .ok
      { calls := [.tableToStream]
        node := fun id =>
          .toStream
            ⟨id, input.schema, input.keyField, input.keyFormat,
              ⟨.stream, .changelog input.pipeline⟩⟩
            input }
  else .error (.shape (.alreadyStream input.id))

/-! ## Grouping -/

/-- The grouping of a stream on the key it has. -/
def groupOnKey (input : PlanNode) (key : KeyField) (encoding : String) : GroupDraft where
  calls := [.groupByKey input.keyFormat encoding]
  grouped := ⟨input, key, input.keyFormat, none, input.pipeline⟩

/-- The grouping of a stream on the values of a list of expressions, under a synthetic
key; records without a row are dropped first. -/
def groupOnValues (planner : Planner) (input : PlanNode) (parts : List Expr) (encoding : String) :
    Except Error GroupDraft := do
  let compiled ← Expr.compileAll "Group By" input.schema planner.functions parts
  let present : Pipeline := .filter input.pipeline fun _ row => row.isSome
  .ok
    { calls := [.filter, .groupBy .plain encoding]
      grouped :=
        ⟨input, .synthetic (Expr.keyName parts) .utf8, .plain, some ⟨compiled⟩, present⟩ }

/-- The grouping of a stream: on the key it has when that serves, otherwise on the values
of the list. -/
def draftGroup (planner : Planner) (input : PlanNode) (parts : List Expr) (encoding : String) :
    Except Error GroupDraft :=
  if parts.isEmpty then .error (.shape .emptyGrouping)
  else if input.isTable then .error (.shape (.groupTable input.id))
  else
    match input.keyField with
    | some key =>
      if servesGrouping key parts then .ok (groupOnKey input key encoding)
      else planner.groupOnValues input parts encoding
    | none => planner.groupOnValues input parts encoding

end Planner

end StreamPlan
