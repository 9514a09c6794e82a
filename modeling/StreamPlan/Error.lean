import StreamPlan.Expr.Text
import StreamPlan.KeyField
import StreamPlan.Plan.NodeId

/-!
# Errors

Everything that can go wrong, by kind and cause.  The cause decides the wording.
Errors of planning gather the contexts they pass through.

Main results:

- `Error.kind`, `Error.message`: kind and wording of an error.
- `Error.kind_withContext`: a context never changes the kind.
- `Error.withContext_of_not_planning`: errors outside planning take no context.
-/

namespace StreamPlan

/-- The kinds of errors. -/
inductive ErrorKind where
  | typeResolution
  | typeMismatch
  | keyResolution
  | unsupportedShape
  | invalidConfig
  | execution
deriving DecidableEq, Repr

namespace ErrorKind

/-- Whether errors of this kind are raised while a plan is built. -/
def isPlanning : ErrorKind → Bool
  | typeResolution | typeMismatch | keyResolution | unsupportedShape => true
  | invalidConfig | execution => false

/-- The name of a kind in messages. -/
def name : ErrorKind → String
  | typeResolution => "TypeResolution"
  | typeMismatch => "TypeMismatch"
  | keyResolution => "KeyResolution"
  | unsupportedShape => "UnsupportedShape"
  | invalidConfig => "InvalidConfig"
  | execution => "Execution"

/-- The words that introduce an error of this kind. -/
def heading : ErrorKind → String
  | typeResolution => "type resolution error: "
  | typeMismatch => "type mismatch: "
  | keyResolution => "key resolution error: "
  | unsupportedShape => "unsupported plan shape: "
  | invalidConfig => "invalid configuration: "
  | execution => "execution error: "

end ErrorKind

/-- Where an expression has to be boolean. -/
inductive BooleanPlace where
  | connective
  | negation
  | condition
deriving DecidableEq, Repr

/-- The words for a place that asks for a boolean. -/
def BooleanPlace.text : BooleanPlace → String
  | .connective => "AND/OR"
  | .negation => "NOT"
  | .condition => "CASE WHEN"

/-- How many arguments a function takes. -/
inductive Arity where
  | exactly (n : Nat)
  | atLeast (n : Nat)
  | between (low high : Nat)
deriving DecidableEq, Repr

/-- Whether a number of arguments is accepted. -/
def Arity.accepts : Arity → Nat → Bool
  | exactly n, count => count == n
  | atLeast n, count => n ≤ count
  | between low high, count => low ≤ count && count ≤ high

/-- The words for a number of arguments. -/
def Arity.text : Arity → String
  | exactly n => toString n
  | atLeast n => "at least " ++ toString n
  | between low high => toString low ++ " to " ++ toString high

/-- Causes of type resolution errors: a name, a function or an operand type that does
not fit. -/
inductive TypingFault where
  /-- No column has the name. -/
  | unknownColumn (name : String)
  /-- Several columns have the bare name. -/
  | ambiguousColumn (name : String)
  /-- A time literal does not spell a time of day. -/
  | invalidTime (text : String)
  /-- No cast leads from one type to the other. -/
  | undefinedCast (source target : DataType)
  /-- An expression has to be boolean and is not. -/
  | notBoolean (place : BooleanPlace) (type : DataType) (expr : Expr)
  /-- A case expression has no branches. -/
  | emptyCase
  /-- The branches of a case expression have no common type. -/
  | branchMismatch (first second : DataType)
  /-- Booleans have no order. -/
  | booleanOrder
  /-- The sides of a comparison have no common type. -/
  | incomparable (left right : DataType)
  /-- The sides of an arithmetic operation are not numeric. -/
  | notNumeric (op : ArithOp) (left right : DataType)
  /-- No function has the name. -/
  | unknownFunction (name : String)
  /-- A function is called with the wrong number of arguments. -/
  | wrongArity (expected : Arity) (count : Nat)
  /-- The only argument has to be a string. -/
  | stringExpected (type : DataType)
  /-- All arguments have to be strings. -/
  | stringsExpected (type : DataType)
  /-- The only argument has to be numeric. -/
  | numberExpected (type : DataType)
  /-- The arguments have to be a string and one or two integers. -/
  | cutExpected (types : List DataType)
  /-- A sum is taken of something that is not numeric. -/
  | sumNotNumeric (call : AggregateCall) (type : DataType)

/-- Causes of type mismatches: a finished expression or schema has the wrong type. -/
inductive MismatchFault where
  /-- Two fields of a schema share a name. -/
  | duplicateField (name : String)
  /-- A filter is not boolean. -/
  | filterNotBoolean (expr : Expr) (type : DataType)
  /-- The schema of a join is not that of its sides. -/
  | joinSchema (joined left right : Schema)

/-- Causes of key resolution errors: a key that a plan needs is not there. -/
inductive KeyFault where
  /-- The key of a source is not the column it names. -/
  | sourceKey (key : KeyField) (schema : Schema)
  /-- The column that takes the record key is not there. -/
  | rowKeyMissing (name : String) (schema : Schema)
  /-- A join has no key. -/
  | joinWithoutKey
  /-- The key of a join is no column of it. -/
  | joinKeyOutside (key : KeyField) (schema : Schema)
  /-- A column left out of a sink is not there. -/
  | rowKeyOutside (index : Nat) (schema : Schema)

/-- Causes of unsupported shapes: operations that do not go together. -/
inductive ShapeFault where
  /-- Only streams can be rekeyed. -/
  | rekeyTable (node : NodeId)
  /-- The left side of a join is a table. -/
  | joinLeftTable (node : NodeId)
  /-- A join with a table has a window. -/
  | tableJoinWindow
  /-- A join with a table is an outer one. -/
  | tableJoinOuter
  /-- A join of two streams has no window. -/
  | streamJoinWithoutWindow
  /-- A grouping list is empty. -/
  | emptyGrouping
  /-- Only streams can be grouped. -/
  | groupTable (node : NodeId)
  /-- Only tables can be turned into streams. -/
  | alreadyStream (node : NodeId)
  /-- A node has a sink already. -/
  | alreadyWritten (node : NodeId) (topic : String)

/-- Causes of invalid configurations. -/
inductive ConfigFault where
  /-- A configured column name is empty. -/
  | emptyName (what : String)
  /-- Both bounds of the window have one name. -/
  | sharedWindowName (name : String)
  /-- Sinks are configured without partitions. -/
  | noPartitions
  /-- Sinks are configured without replicas. -/
  | noReplicas
  /-- A property of the planner is not known. -/
  | unknownProperty (key : String)
  /-- A property is not a number in range. -/
  | notANumber (key value : String)

/-- Causes of execution errors: a row for which an expression has no value. -/
inductive EvaluationFault where
  /-- A value has no counterpart in the target type. -/
  | castFailed (value : Value) (target : DataType)
  /-- An integer result does not fit its type. -/
  | integerOverflow
  /-- An integer is divided by zero. -/
  | divisionByZero
  /-- A function meets a value of a type it did not accept. -/
  | unexpectedArgument (value : Value)

/-- An error. -/
inductive Error where
  | typing (fault : TypingFault)
  | mismatch (fault : MismatchFault)
  | key (fault : KeyFault)
  | shape (fault : ShapeFault)
  | config (fault : ConfigFault)
  | evaluation (fault : EvaluationFault)
  /-- The column of a new key is not found. -/
  | unresolvedKey (name : String) (schema : Schema) (cause : Error)
  /-- A function fails on a row. -/
  | functionFailed (name : String) (cause : Error)
  /-- Raised outside the planner, by a function or by the engine. -/
  | reported (kind : ErrorKind) (text : String)
  /-- Raised in a context. -/
  | within (context : String) (cause : Error)

/-! ## Wording -/

/-- The name of an arithmetic operation in messages. -/
def ArithOp.name : ArithOp → String
  | plus => "Plus"
  | minus => "Minus"
  | times => "Multiply"
  | divide => "Divide"
  | modulo => "Modulo"

/-- The wording of a type resolution error. -/
def TypingFault.message : TypingFault → String
  | unknownColumn name => "unknown column '" ++ name ++ "'"
  | ambiguousColumn name =>
    "ambiguous column reference '" ++ name ++ "' (qualify it with a source alias)"
  | invalidTime text => "invalid TIME literal '" ++ text ++ "'"
  | undefinedCast source target => "cannot cast " ++ source.text ++ " to " ++ target.text
  | notBoolean place type expr =>
    place.text ++ " requires boolean operands, got " ++ type.text ++ " for " ++ expr.text
  | emptyCase => "CASE requires at least one WHEN/THEN branch"
  | branchMismatch first second =>
    "CASE branch type mismatch: cannot unify " ++ first.text ++ " and " ++ second.text
  | booleanOrder => "ordering comparisons are not defined for BOOLEAN"
  | incomparable left right => "cannot compare types " ++ left.text ++ " and " ++ right.text
  | notNumeric op left right =>
    "arithmetic " ++ op.name ++ " requires numeric operands, got " ++ left.text ++ " and " ++
      right.text
  | unknownFunction name => "unknown function '" ++ name ++ "'"
  | wrongArity expected count =>
    "expects " ++ expected.text ++ " argument(s), got " ++ toString count
  | stringExpected type => "expects a string argument, got " ++ type.text
  | stringsExpected type => "expects string arguments, got " ++ type.text
  | numberExpected type => "expects a numeric argument, got " ++ type.text
  | cutExpected types =>
    "expects (string, int[, int]), got " ++ Text.listText DataType.text types
  | sumNotNumeric call type =>
    "Aggregate " ++ call.text ++ ": SUM requires a numeric argument, got " ++ type.text

/-- The wording of a type mismatch. -/
def MismatchFault.message : MismatchFault → String
  | duplicateField name => "duplicate field name '" ++ name ++ "' in schema"
  | filterNotBoolean expr type =>
    "Filter expression " ++ expr.text ++ " has type " ++ type.text ++ ", expected BOOLEAN"
  | joinSchema joined left right =>
    "join schema " ++ joined.text ++ " is not " ++ left.text ++ " followed by " ++ right.text

/-- The wording of a key resolution error. -/
def KeyFault.message : KeyFault → String
  | sourceKey key schema =>
    "key field " ++ key.text ++ " does not match schema " ++ schema.text
  | rowKeyMissing name schema =>
    "row key column '" ++ name ++ "' is not in schema " ++ schema.text
  | joinWithoutKey => "join requires a key field"
  | joinKeyOutside key schema =>
    "join key " ++ key.text ++ " is outside schema " ++ schema.text
  | rowKeyOutside index schema =>
    "row key index " ++ toString index ++ " is outside schema " ++ schema.text

/-- The wording of an unsupported shape. -/
def ShapeFault.message : ShapeFault → String
  | rekeyTable node => "cannot rekey table " ++ node.text
  | joinLeftTable node => "left input " ++ node.text ++ " of a join must be a stream"
  | tableJoinWindow => "stream-table join does not take a window"
  | tableJoinOuter => "OUTER join is not supported between a stream and a table"
  | streamJoinWithoutWindow => "stream-stream join requires a window"
  | emptyGrouping => "GROUP BY requires at least one expression"
  | groupTable node => "cannot group table " ++ node.text
  | alreadyStream node => node.text ++ " is already a stream"
  | alreadyWritten node topic => node.text ++ " already writes to sink '" ++ topic ++ "'"

/-- The wording of an invalid configuration. -/
def ConfigFault.message : ConfigFault → String
  | emptyName what => what ++ " name is empty"
  | sharedWindowName name => "window start and end columns share the name '" ++ name ++ "'"
  | noPartitions => "sink partitions must be > 0"
  | noReplicas => "sink replicas must be > 0"
  | unknownProperty key => "unknown planner property '" ++ key ++ "'"
  | notANumber key value => "property '" ++ key ++ "' expects a number, got '" ++ value ++ "'"

/-- The wording of an execution error. -/
def EvaluationFault.message : EvaluationFault → String
  | castFailed value target => "cannot cast " ++ value.debugText ++ " to " ++ target.text
  | integerOverflow => "integer overflow"
  | divisionByZero => "division by zero"
  | unexpectedArgument value => "unexpected argument value " ++ value.debugText

namespace Error

/-- The kind of an error. -/
def kind : Error → ErrorKind
  | typing _ => .typeResolution
  | mismatch _ => .typeMismatch
  | key _ => .keyResolution
  | shape _ => .unsupportedShape
  | config _ => .invalidConfig
  | evaluation _ => .execution
  | unresolvedKey .. => .keyResolution
  | functionFailed .. => .execution
  | reported kind _ => kind
  | within _ cause => cause.kind

/-- The wording of an error, without the words for its kind. -/
def message : Error → String
  | typing fault => fault.message
  | mismatch fault => fault.message
  | key fault => fault.message
  | shape fault => fault.message
  | config fault => fault.message
  | evaluation fault => fault.message
  | unresolvedKey name schema cause =>
    "key column '" ++ name ++ "' cannot be resolved in " ++ schema.text ++ ": " ++
      cause.kind.heading ++ cause.message
  | functionFailed name cause =>
    "function '" ++ name ++ "' failed: " ++ cause.kind.heading ++ cause.message
  | reported _ text => text
  | within context cause => context ++ ": " ++ cause.message

/-- The full text of an error. -/
def text (e : Error) : String := e.kind.heading ++ e.message

/-- An error in messages: its kind and its quoted wording. -/
def debugText (e : Error) : String := e.kind.name ++ "(" ++ Text.quoted e.message ++ ")"

/-- Whether the error was raised while a plan was built. -/
def isPlanning (e : Error) : Bool := e.kind.isPlanning

/-- The error in a context; errors outside planning take none. -/
def withContext (context : String) (e : Error) : Error :=
  if e.isPlanning then within context e else e

/-- A context never changes the kind. -/
@[simp] theorem kind_withContext (context : String) (e : Error) :
    (e.withContext context).kind = e.kind := by
  unfold withContext
  split <;> rfl

/-- A planning error names its context first. -/
theorem message_withContext {context : String} {e : Error} (h : e.isPlanning = true) :
    (e.withContext context).message = context ++ ": " ++ e.message := by
  rw [withContext, if_pos h]
  rfl

/-- Errors outside planning take no context. -/
theorem withContext_of_not_planning {context : String} {e : Error}
    (h : e.isPlanning = false) : e.withContext context = e := by
  rw [withContext, h]
  rfl

end Error

end StreamPlan
