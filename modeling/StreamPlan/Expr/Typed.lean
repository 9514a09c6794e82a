import StreamPlan.Cast
import StreamPlan.Expr.Typing
import StreamPlan.Function
import StreamPlan.Schema.Resolve

/-!
# Typed expressions

An expression compiled against a schema: columns are positions, functions are
found, and operands of different numeric types are cast to the wider one.

Main results:

- `Expr.typed`: typing an expression.
- `Expr.typed_column` and so on: the typed form of each form of expression.
- `CompiledExpr`, `Expr.compile`: a typed expression with its source.
- `Expr.compileAll`: compiling a list of expressions in a context.
-/

namespace StreamPlan

/-- An expression whose names and types are resolved. -/
inductive TypedExpr where
  | column (index : Nat) (type : DataType)
  | literal (value : Value)
  | cast (inner : TypedExpr) (target : DataType)
  | not (inner : TypedExpr)
  | connect (op : Connective) (left right : TypedExpr)
  | isNull (inner : TypedExpr) (negated : Bool)
  | case (branches : List (TypedExpr × TypedExpr)) (otherwise : Option TypedExpr)
      (type : DataType)
  | compare (op : CompareOp) (left right : TypedExpr)
  | arith (op : ArithOp) (left right : TypedExpr) (type : DataType)
  | apply (function : ScalarFunction) (arguments : List TypedExpr) (type : DataType)

namespace TypedExpr

/-- The static type of an expression. -/
def dataType : TypedExpr → DataType
  | column _ type => type
  | literal v => v.dataType
  | cast _ target => target
  | not _ => .boolean
  | connect .. => .boolean
  | isNull .. => .boolean
  | case _ _ type => type
  | compare .. => .boolean
  | arith _ _ _ type => type
  | apply _ _ type => type

/-- The expression cast to a type, unless it has that type or the type is null. -/
def castTo (e : TypedExpr) (target : DataType) : TypedExpr :=
  if e.dataType = target ∨ target = .null then e else cast e target

/-- A cast expression has the target type. -/
theorem dataType_castTo {e : TypedExpr} {target : DataType} (h : target ≠ .null) :
    (e.castTo target).dataType = target := by
  unfold castTo
  split
  · rename_i hc
    exact hc.resolve_right h
  · rfl

/-- The expression as a boolean: an untyped null is cast, other types are refused. -/
def requireBoolean (place : BooleanPlace) (source : Expr) (e : TypedExpr) :
    Except Error TypedExpr :=
  if e.dataType = .boolean then .ok e
  else if e.dataType = .null then .ok (e.castTo .boolean)
  else .error (.typing (.notBoolean place e.dataType source))

/-- A case expression over branches of a common type. -/
def ofBranches (branches : List (TypedExpr × TypedExpr)) (otherwise : Option TypedExpr) :
    Except Error TypedExpr := do
  let type ← commonType (branches.map (·.2.dataType) ++ otherwise.toList.map dataType)
  .ok (case (branches.map fun branch => (branch.1, branch.2.castTo type))
    (otherwise.map fun e => e.castTo type) type)

/-- A comparison on the type where both sides meet. -/
def ofCompare (op : CompareOp) (left right : TypedExpr) : Except Error TypedExpr := do
  let type ← comparisonType op left.dataType right.dataType
  .ok (compare op (left.castTo type) (right.castTo type))

/-- An arithmetic operation on the type where both sides meet. -/
def ofArith (op : ArithOp) (left right : TypedExpr) : Except Error TypedExpr := do
  let type ← arithmeticType op left.dataType right.dataType
  .ok (arith op (left.castTo type) (right.castTo type) type)

/-- A cast, when it is defined. -/
def ofCast (inner : TypedExpr) (target : DataType) : Except Error TypedExpr :=
  if inner.dataType.castsTo target then .ok (inner.castTo target)
  else .error (.typing (.undefinedCast inner.dataType target))

/-- A call of the function with a name, on arguments it accepts. -/
def ofCall (functions : Registry) (name : String) (arguments : List TypedExpr) :
    Except Error TypedExpr := do
  let (function, type) ← functions.resolve name (arguments.map dataType)
  .ok (apply function arguments type)

end TypedExpr

mutual

/-- The typed form of an expression over the columns of a schema. -/
def Expr.typed (schema : Schema) (functions : Registry) : Expr → Except Error TypedExpr
  | .column c => do
    let i ← schema.resolve c
    .ok (.column i (schema.typeAt i))
  | .literal v => do
    let value ← v.toValue
    .ok (.literal value)
  | .cast e target => do
    let inner ← e.typed schema functions
    inner.ofCast target
  | .connect op l r => do
    let left ← l.typed schema functions
    let left ← left.requireBoolean .connective l
    let right ← r.typed schema functions
    let right ← right.requireBoolean .connective r
    .ok (.connect op left right)
  | .not e => do
    let inner ← e.typed schema functions
    let inner ← inner.requireBoolean .negation e
    .ok (.not inner)
  | .isNull e => do
    let inner ← e.typed schema functions
    .ok (.isNull inner false)
  | .isNotNull e => do
    let inner ← e.typed schema functions
    .ok (.isNull inner true)
  | .case branches otherwise =>
    if branches.isEmpty then .error (.typing .emptyCase)
    else do
      let branches ← Expr.typedBranches schema functions branches
      let otherwise ← Expr.typedOtherwise schema functions otherwise
      TypedExpr.ofBranches branches otherwise
  | .compare op l r => do
    let left ← l.typed schema functions
    let right ← r.typed schema functions
    TypedExpr.ofCompare op left right
  | .arith op l r => do
    let left ← l.typed schema functions
    let right ← r.typed schema functions
    TypedExpr.ofArith op left right
  | .call name arguments => do
    let arguments ← Expr.typedAll schema functions arguments
    TypedExpr.ofCall functions name arguments

/-- The typed forms of a list of expressions. -/
def Expr.typedAll (schema : Schema) (functions : Registry) :
    List Expr → Except Error (List TypedExpr)
  | [] => .ok []
  | e :: rest => do
    let first ← e.typed schema functions
    let others ← Expr.typedAll schema functions rest
    .ok (first :: others)

/-- The typed forms of the branches of a case expression. -/
def Expr.typedBranches (schema : Schema) (functions : Registry) :
    List (Expr × Expr) → Except Error (List (TypedExpr × TypedExpr))
  | [] => .ok []
  | (cond, result) :: rest => do
    let first ← cond.typed schema functions
    let first ← first.requireBoolean .condition cond
    let second ← result.typed schema functions
    let others ← Expr.typedBranches schema functions rest
    .ok ((first, second) :: others)

/-- The typed form of the alternative of a case expression. -/
def Expr.typedOtherwise (schema : Schema) (functions : Registry) :
    Option Expr → Except Error (Option TypedExpr)
  | none => .ok none
  | some e => do
    let typed ← e.typed schema functions
    .ok (some typed)

end

namespace Expr

variable (schema : Schema) (functions : Registry)

/-! ### The typed form of each form -/

theorem typed_column (c : ColumnRef) :
    (column c).typed schema functions =
      schema.resolve c >>= fun i => .ok (.column i (schema.typeAt i)) := rfl

theorem typed_literal (v : Literal) :
    (literal v).typed schema functions = v.toValue >>= fun value => .ok (.literal value) := rfl

theorem typed_cast (e : Expr) (target : DataType) :
    (cast e target).typed schema functions =
      e.typed schema functions >>= fun inner => inner.ofCast target := rfl

theorem typed_connect (op : Connective) (l r : Expr) :
    (connect op l r).typed schema functions =
      l.typed schema functions >>= fun left => left.requireBoolean .connective l >>= fun left =>
        r.typed schema functions >>= fun right =>
          right.requireBoolean .connective r >>= fun right => .ok (.connect op left right) := rfl

theorem typed_not (e : Expr) :
    (not e).typed schema functions =
      e.typed schema functions >>= fun inner => inner.requireBoolean .negation e >>= fun inner =>
        .ok (.not inner) := rfl

theorem typed_isNull (e : Expr) :
    (isNull e).typed schema functions =
      e.typed schema functions >>= fun inner => .ok (.isNull inner false) := rfl

theorem typed_isNotNull (e : Expr) :
    (isNotNull e).typed schema functions =
      e.typed schema functions >>= fun inner => .ok (.isNull inner true) := rfl

theorem typed_case (branches : List (Expr × Expr)) (otherwise : Option Expr) :
    (case branches otherwise).typed schema functions =
      if branches.isEmpty then .error (.typing .emptyCase)
      else
        typedBranches schema functions branches >>= fun branches =>
          typedOtherwise schema functions otherwise >>= fun otherwise =>
            TypedExpr.ofBranches branches otherwise := rfl

theorem typed_compare (op : CompareOp) (l r : Expr) :
    (compare op l r).typed schema functions =
      l.typed schema functions >>= fun left => r.typed schema functions >>= fun right =>
        TypedExpr.ofCompare op left right := rfl

theorem typed_arith (op : ArithOp) (l r : Expr) :
    (arith op l r).typed schema functions =
      l.typed schema functions >>= fun left => r.typed schema functions >>= fun right =>
        TypedExpr.ofArith op left right := rfl

theorem typed_call (name : String) (arguments : List Expr) :
    (call name arguments).typed schema functions =
      typedAll schema functions arguments >>= fun arguments =>
        TypedExpr.ofCall functions name arguments := rfl

theorem typedAll_nil : typedAll schema functions [] = .ok [] := rfl

theorem typedAll_cons (e : Expr) (rest : List Expr) :
    typedAll schema functions (e :: rest) =
      e.typed schema functions >>= fun first => typedAll schema functions rest >>= fun others =>
        .ok (first :: others) := rfl

theorem typedBranches_nil : typedBranches schema functions [] = .ok [] := rfl

theorem typedBranches_cons (cond result : Expr) (rest : List (Expr × Expr)) :
    typedBranches schema functions ((cond, result) :: rest) =
      cond.typed schema functions >>= fun first =>
        first.requireBoolean .condition cond >>= fun first =>
          result.typed schema functions >>= fun second =>
            typedBranches schema functions rest >>= fun others =>
              .ok ((first, second) :: others) := rfl

theorem typedOtherwise_none : typedOtherwise schema functions none = .ok none := rfl

theorem typedOtherwise_some (e : Expr) :
    typedOtherwise schema functions (some e) =
      e.typed schema functions >>= fun typed => .ok (some typed) := rfl

end Expr

/-! ## Compiled expressions -/

/-- A typed expression with its source and the schema it was typed against. -/
structure CompiledExpr where
  source : Expr
  schema : Schema
  typed : TypedExpr

namespace CompiledExpr

/-- The static type of a compiled expression. -/
def dataType (e : CompiledExpr) : DataType := e.typed.dataType

/-- A compiled expression in messages. -/
def debugText (e : CompiledExpr) : String :=
  "CompiledExpression \x7b expr: " ++ Text.quoted e.source.text ++ ", data_type: " ++
    e.dataType.text ++ " \x7d"

end CompiledExpr

/-- Compile an expression against a schema. -/
def Expr.compile (schema : Schema) (functions : Registry) (e : Expr) :
    Except Error CompiledExpr := do
  let typed ← e.typed schema functions
  .ok ⟨e, schema, typed⟩

/-- Compile an expression; an error names the context and the expression. -/
def Expr.compileIn (context : String) (schema : Schema) (functions : Registry) (e : Expr) :
    Except Error CompiledExpr :=
  (e.compile schema functions).mapError (·.withContext (context ++ " expression " ++ e.text))

/-- Compile a list of expressions; an error names the context and the first
expression that fails. -/
def Expr.compileAll (context : String) (schema : Schema) (functions : Registry) :
    List Expr → Except Error (List CompiledExpr)
  | [] => .ok []
  | e :: rest => do
    let first ← e.compileIn context schema functions
    let others ← Expr.compileAll context schema functions rest
    .ok (first :: others)

end StreamPlan
