import StreamPlan.Config
import StreamPlan.Expr.Evaluate
import StreamPlan.Record

/-!
# Predicates

A predicate keeps the records whose row makes a boolean expression true.  Over
windowed keys the expression also sees the bounds of the window, as columns after
those of the row.

Main results:

- `Predicate.test_none`: tombstones are not kept.
-/

namespace StreamPlan

/-- A bound of the window of a key. -/
inductive WindowBound where
  | start
  | stop
deriving DecidableEq, Repr

namespace WindowBound

/-- The column that shows a bound. -/
def column (config : Config) : WindowBound → String
  | start => config.windowStartColumn
  | stop => config.windowEndColumn

/-- The value of a bound; null for a key without window. -/
def value (key : RecordKey) (bound : WindowBound) : Value :=
  match key.window?, bound with
  | some w, start => .int64 w.start
  | some w, stop => .int64 w.stop
  | none, _ => .null

/-- The name of a bound in messages. -/
def text : WindowBound → String
  | start => "Start"
  | stop => "End"

/-- The bounds that become columns: those whose names the schema does not have. -/
def added (config : Config) (schema : Schema) : List WindowBound :=
  [start, stop].filter fun bound => (schema.indexOf? (bound.column config)).isNone

end WindowBound

/-- A compiled filter and the bounds it sees as columns. -/
structure Predicate where
  expr : CompiledExpr
  bounds : List WindowBound

namespace Predicate

/-- The bounds of the window that a filter sees. -/
def boundsFor (config : Config) (windowed : Bool) (schema : Schema) : List WindowBound :=
  if windowed then WindowBound.added config schema else []

/-- The schema a filter is compiled against: the input and the bounds it sees. -/
def schemaFor (config : Config) (windowed : Bool) (schema : Schema) : Schema :=
  schema.append
    ⟨(boundsFor config windowed schema).map fun bound => ⟨bound.column config, .int64⟩⟩

/-- Compile a filter over a schema. -/
def compile (config : Config) (functions : Registry) (windowed : Bool) (schema : Schema)
    (e : Expr) : Except Error Predicate := do
  let compiled ← (e.compile (schemaFor config windowed schema) functions).mapError
    (·.withContext ("Filter expression " ++ e.text))
  if compiled.dataType = .boolean then .ok ⟨compiled, boundsFor config windowed schema⟩
  else .error (.mismatch (.filterNotBoolean e compiled.dataType))

/-- The row with the bounds of the window at its end. -/
def extend (predicate : Predicate) (key : RecordKey) (row : Row) : Row :=
  ⟨row.columns ++ predicate.bounds.map fun bound => bound.value key⟩

/-- Whether a row makes the expression true; a row where it is unknown or fails does not. -/
def testRow (predicate : Predicate) (key : RecordKey) (row : Row) : Bool :=
  match predicate.expr.evaluate (predicate.extend key row) with
  | .ok v => v.toBool? == some true
  | .error _ => false

/-- Whether a record is kept; a tombstone is not. -/
def test (predicate : Predicate) (key : RecordKey) (row : Option Row) : Bool :=
  match row with
  | some row => predicate.testRow key row
  | none => false

/-- A predicate in messages. -/
def debugText (predicate : Predicate) : String :=
  "SqlPredicate \x7b expr: " ++ predicate.expr.debugText ++ ", window_columns: " ++
    Text.listText WindowBound.text predicate.bounds ++ " \x7d"

/-- Without a window a filter is compiled against the schema of its input. -/
theorem schemaFor_plain (config : Config) (schema : Schema) :
    schemaFor config false schema = schema := by
  simp [schemaFor, boundsFor, Schema.append]

/-- Tombstones are not kept. -/
@[simp] theorem test_none (predicate : Predicate) (key : RecordKey) :
    predicate.test key none = false := rfl

end Predicate

end StreamPlan
