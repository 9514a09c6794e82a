import StreamPlan.Expr.Evaluate

/-!
# Aggregation

An aggregation folds the rows of a group into one aggregate row: the key of the
group, then one column per aggregate call.  A call whose argument is null or fails
on a row leaves its column as it is.

Main results:

- `Aggregator.compile`, `Aggregator.initial`, `Aggregator.fold`: an aggregation.
- `Aggregator.width_initial`, `Aggregator.width_fold`: aggregate rows keep their width.
- `AggregateColumn.step_of_no_input`: what a row without input changes.
-/

namespace StreamPlan

/-- One column of aggregate rows: a call with its compiled argument and its type. -/
structure AggregateColumn where
  name : String
  call : AggregateCall
  argument : Option CompiledExpr
  type : DataType

/-- Where the key column of aggregate rows comes from: a column of the input, if the
key is one, and its type. -/
structure AggregateKey where
  index : Option Nat
  type : DataType
deriving DecidableEq, Repr

/-- The columns of an aggregation and its key column; without one the key is kept as
it is. -/
structure Aggregator where
  columns : List AggregateColumn
  key : Option AggregateKey

/-! ## Steps -/

/-- The sum of the value so far and a further one, in the type of the sum; nothing
when it does not fit. -/
def addTo? (type : DataType) (current input : Value) : Option Value :=
  if type = .float64 then
    input.toFloat?.map fun x => .float64 (current.toFloat?.getD 0 + x)
  else
    (input.toInt?.bind fun n => Word.int64? (current.toInt?.getD 0 + n)).map .int64

/-- The better of the value so far and a further one, which is better when it compares
as wanted. -/
def pick (wanted : Ordering) (current input : Value) : Value :=
  if current.isNull || input.compare? current == some wanted then input else current

/-- One more than the count so far, up to the largest 64-bit integer. -/
def countUp (current : Value) : Value :=
  .int64 (Int64.ofInt (min (current.toInt?.getD 0 + 1) 0x7FFFFFFFFFFFFFFF))

namespace AggregateColumn

/-- What a column makes of a further value that is not null. -/
def combine (column : AggregateColumn) (current input : Value) : Value :=
  match column.call with
  | .countAll | .count _ => countUp current
  | .sum _ => (addTo? column.type current input).getD current
  | .min _ => pick .lt current input
  | .max _ => pick .gt current input

/-- The value that a row brings to a column; nothing when the argument is null or fails. -/
def input? (column : AggregateColumn) (row : Row) : Option Value :=
  match column.argument with
  | none => some (.boolean true)
  | some e =>
    match e.evaluate row with
    | .ok v => if v.isNull then none else some v
    | .error _ => none

/-- What a row makes of the column's value so far. -/
def step (column : AggregateColumn) (row : Row) (current : Value) : Value :=
  match column.input? row with
  | some input => column.combine current input
  | none => current

/-- The value of the column before any row: counts start at zero. -/
def initial (column : AggregateColumn) : Value :=
  if column.call.isCount then .int64 0 else .null

/-- The field of the column. -/
def field (column : AggregateColumn) : Field := ⟨column.name, column.type⟩

/-- A row without input changes nothing. -/
theorem step_of_no_input {column : AggregateColumn} {row : Row} (h : column.input? row = none)
    (current : Value) : column.step row current = current := by
  simp [step, h]

/-- The type of a call over an argument of a given type. -/
def typeOf (call : AggregateCall) (argument : DataType) : Except Error DataType :=
  match call with
  | .countAll | .count _ => .ok .int64
  | .min _ | .max _ => .ok argument
  | .sum _ =>
    if argument = .int32 ∨ argument = .int64 then .ok .int64
    else if argument = .float64 then .ok .float64
    else .error (.typing (.sumNotNumeric call argument))

/-- Compile one aggregate item against a schema. -/
def compile (schema : Schema) (functions : Registry) (item : AggregateItem) :
    Except Error AggregateColumn :=
  match item.call.argument? with
  | none => .ok ⟨item.name, item.call, none, .int64⟩
  | some e => do
    let argument ← (e.compile schema functions).mapError
      (·.withContext ("Aggregate " ++ item.call.text))
    let type ← typeOf item.call argument.dataType
    .ok ⟨item.name, item.call, some argument, type⟩

/-- Compile a list of aggregate items; the first that fails decides the error. -/
def compileAll (schema : Schema) (functions : Registry) :
    List AggregateItem → Except Error (List AggregateColumn)
  | [] => .ok []
  | item :: rest => do
    let first ← compile schema functions item
    let others ← compileAll schema functions rest
    .ok (first :: others)

end AggregateColumn

/-! ## Aggregate rows -/

namespace Aggregator

/-- Compile aggregate items against the schema of the grouped rows. -/
def compile (schema : Schema) (functions : Registry) (items : List AggregateItem) :
    Except Error Aggregator :=
  (AggregateColumn.compileAll schema functions items).map fun columns => ⟨columns, none⟩

/-- The aggregation with a typed key column. -/
def withKey (aggregator : Aggregator) (index : Option Nat) (type : DataType) : Aggregator :=
  { aggregator with key := some ⟨index, type⟩ }

/-- The fields of the aggregate columns, behind the key. -/
def fields (aggregator : Aggregator) : List Field := aggregator.columns.map (·.field)

/-- The aggregate row of a group without rows. -/
def initial (aggregator : Aggregator) : Row :=
  ⟨.null :: aggregator.columns.map (·.initial)⟩

/-- The value of the key column for a group and one of its rows: the column of the row
if it has the right type, otherwise the key cast to that type, or null. -/
def keyValue (aggregator : Aggregator) (key : Value) (row : Row) : Value :=
  match aggregator.key with
  | none => key
  | some column =>
    let cast :=
      match key.cast column.type with
      | .ok v => v
      | .error _ => .null
    match column.index with
    | some i => if (row.get i).dataType = column.type then row.get i else cast
    | none => cast

/-- Fold a row into the columns from a position on. -/
def foldColumns (row : Row) (aggregate : Row) : Nat → List AggregateColumn → Row
  | _, [] => aggregate
  | slot, column :: rest =>
    foldColumns row (aggregate.set slot (column.step row (aggregate.get slot))) (slot + 1) rest

/-- Fold a row of a group into its aggregate row. -/
def fold (aggregator : Aggregator) (key : Value) (row : Row) (aggregate : Row) : Row :=
  foldColumns row (aggregate.set 0 (aggregator.keyValue key row)) 1 aggregator.columns

/-- The first aggregate row has a value per column and one for the key. -/
@[simp] theorem width_initial (aggregator : Aggregator) :
    aggregator.initial.width = aggregator.columns.length + 1 := by
  simp [initial, Row.width]

/-- Folding columns keeps the width. -/
@[simp] theorem width_foldColumns (row aggregate : Row) (slot : Nat)
    (columns : List AggregateColumn) :
    (foldColumns row aggregate slot columns).width = aggregate.width := by
  induction columns generalizing aggregate slot with
  | nil => rfl
  | cons column rest ih => simp [foldColumns, ih]

/-- Folding keeps the width of aggregate rows. -/
@[simp] theorem width_fold (aggregator : Aggregator) (key : Value) (row aggregate : Row) :
    (aggregator.fold key row aggregate).width = aggregate.width := by
  simp [fold]

end Aggregator

end StreamPlan
