import StreamPlan.Plan.Session

/-!
# Plan dumps

The text of a plan: one line per node, each followed by the dumps of its inputs one
tab deeper.  A node with a sink is preceded by a line for the sink and moves one tab
deeper itself.

Main results:

- `PlanNode.explain`: the dump of a node under an indent.
- `Session.explain`: the dump of a node with the sinks of a session.
-/

namespace StreamPlan

/-- One line of a plan dump. -/
def planLine (indent : String) (kind : PlanKind) (schema : Schema) : String :=
  indent ++ " > [ " ++ kind.text ++ " ] Schema: " ++ schema.text ++ ".\n"

/-- The line of an operator, followed by the dumps of its inputs. -/
def operatorDump (kind : PlanKind) (schema : Schema) (inputs : List (String → String))
    (indent : String) : String :=
  planLine indent kind schema ++
    String.join (inputs.map fun input => "\t" ++ indent ++ input (indent ++ "\t"))

/-- The dump of a node, behind the line of its sink if it has one. -/
def nodeDump (sink : Option Schema) (kind : PlanKind) (schema : Schema)
    (inputs : List (String → String)) (indent : String) : String :=
  match sink with
  | some written =>
    planLine indent .sink written ++ "\t" ++ indent ++
      operatorDump kind schema inputs (indent ++ "\t")
  | none => operatorDump kind schema inputs indent

/-- The dump of a node under an indent; `sinkOf` gives the schema written for a node. -/
def PlanNode.explain (sinkOf : NodeId → Option Schema) : PlanNode → String → String
  | .source head _ => nodeDump (sinkOf head.id) .source head.schema []
  | .project head input _ =>
    nodeDump (sinkOf head.id) .project head.schema [input.explain sinkOf]
  | .filter head input _ =>
    nodeDump (sinkOf head.id) .filter head.schema [input.explain sinkOf]
  | .rekey head input _ =>
    nodeDump (sinkOf head.id) .rekey head.schema [input.explain sinkOf]
  | .join head left right .. =>
    nodeDump (sinkOf head.id) .join head.schema [left.explain sinkOf, right.explain sinkOf]
  | .aggregate head input .. =>
    nodeDump (sinkOf head.id) .aggregate head.schema [input.explain sinkOf]
  | .toStream head input =>
    nodeDump (sinkOf head.id) .toStream head.schema [input.explain sinkOf]

/-- The dump of a node without sinks. -/
def PlanNode.dump (node : PlanNode) (indent : String) : String :=
  node.explain (fun _ => none) indent

/-- The dump of a node with the sinks of a session. -/
def Session.explain (session : Session) (node : PlanNode) : String :=
  node.explain (fun id => (session.sinkOf? id).map (·.schema)) ""

end StreamPlan
