import StreamPlan.Binary64.Rounding
import StreamPlan.Expr.Typed

/-!
# Evaluation

The value of a typed expression on a row.  Evaluation looks at the row alone; it
gives a value or an execution error.

Main results:

- `ArithOp.onInt64`, `ArithOp.onInt32`: integer arithmetic, exact or an error.
- `Connective.decide?`: connectives of three truth values.
- `TypedExpr.evaluate`, `CompiledExpr.evaluate`: the value on a row.
- `TypedExpr.evaluate_column` and so on: the value of each form of expression.
-/

namespace StreamPlan

/-! ## Arithmetic -/

/-- A 64-bit result, when it fits. -/
def narrow64 (n : Int) : Except Error Int64 :=
  match Word.int64? n with
  | some v => .ok v
  | none => .error (.evaluation .integerOverflow)

/-- A 32-bit result, when it fits. -/
def narrow32 (n : Int) : Except Error Int32 :=
  match Word.int32? n with
  | some v => .ok v
  | none => .error (.evaluation .integerOverflow)

/-- Refuse a divisor of zero. -/
def requireDivisor (n : Int) : Except Error Unit :=
  if n = 0 then .error (.evaluation .divisionByZero) else .ok ()

/-- Arithmetic on 64-bit integers: division truncates, and a remainder is taken by
dividing, so it needs a quotient that fits. -/
def ArithOp.onInt64 (op : ArithOp) (a b : Int) : Except Error Int64 :=
  match op with
  | plus => narrow64 (a + b)
  | minus => narrow64 (a - b)
  | times => narrow64 (a * b)
  | divide => do
    requireDivisor b
    narrow64 (a.tdiv b)
  | modulo => do
    requireDivisor b
    let _ ← narrow64 (a.tdiv b)
    narrow64 (a.tmod b)

/-- Arithmetic on 32-bit integers, computed with 64 bits. -/
def ArithOp.onInt32 (op : ArithOp) (a b : Int) : Except Error Int32 := do
  let wide ← op.onInt64 a b
  narrow32 wide.toInt

/-- Arithmetic on doubles. -/
def ArithOp.onFloat (op : ArithOp) (a b : Float) : Float :=
  match op with
  | plus => a + b
  | minus => a - b
  | times => a * b
  | divide => a / b
  | modulo => Binary64.remainder a b

/-- Arithmetic on two values of one numeric type; null for anything else. -/
def ArithOp.onValues (op : ArithOp) : Value → Value → Except Error Value
  | .int32 a, .int32 b => (op.onInt32 a.toInt b.toInt).map .int32
  | .int64 a, .int64 b => (op.onInt64 a.toInt b.toInt).map .int64
  | .float64 a, .float64 b => .ok (.float64 (op.onFloat a b))
  | _, _ => .ok .null

/-! ## Comparison and logic -/

/-- Comparison of two values; null when they are not comparable. -/
def CompareOp.onValues (op : CompareOp) (a b : Value) : Value :=
  match a.compare? b with
  | some order => .boolean (op.holds order)
  | none => .null

/-- The truth value of one side that decides a connective. -/
def Connective.decisive : Connective → Bool
  | and => false
  | or => true

/-- The truth value of a connective, where either side may be unknown: it is unknown
unless one side decides it or both are known. -/
def Connective.decide? (op : Connective) (a b : Option Bool) : Option Bool :=
  if a = some op.decisive ∨ b = some op.decisive then some op.decisive
  else if a.isSome && b.isSome then some (!op.decisive)
  else none

/-- A truth value that may be unknown. -/
def Value.ofTruth : Option Bool → Value
  | some b => .boolean b
  | none => .null

/-! ## Expressions -/

/-- The result of a function; its failure names the function. -/
def ScalarFunction.call (function : ScalarFunction) (arguments : List Value) :
    Except Error Value :=
  (function.invoke arguments).mapError (.functionFailed function.name)

mutual

/-- The value of an expression on a row.  A connective looks at its right side only
when the left one does not decide it. -/
def TypedExpr.evaluate (row : Row) : TypedExpr → Except Error Value
  | .column i _ => .ok (row.get i)
  | .literal v => .ok v
  | .cast e target => do
    let v ← e.evaluate row
    v.cast target
  | .not e => do
    let v ← e.evaluate row
    .ok (.ofTruth (v.toBool?.map Bool.not))
  | .connect op l r => do
    let left ← l.evaluate row
    if left.toBool? = some op.decisive then .ok (.boolean op.decisive)
    else
      let right ← r.evaluate row
      .ok (.ofTruth (op.decide? left.toBool? right.toBool?))
  | .isNull e negated => do
    let v ← e.evaluate row
    .ok (.boolean (v.isNull != negated))
  | .case branches otherwise _ => do
    match ← TypedExpr.firstBranch row branches with
    | some v => .ok v
    | none => TypedExpr.evaluateOtherwise row otherwise
  | .compare op l r => do
    let left ← l.evaluate row
    let right ← r.evaluate row
    .ok (op.onValues left right)
  | .arith op l r _ => do
    let left ← l.evaluate row
    let right ← r.evaluate row
    op.onValues left right
  | .apply function arguments _ => do
    let values ← TypedExpr.evaluateAll row arguments
    function.call values

/-- The values of a list of expressions. -/
def TypedExpr.evaluateAll (row : Row) : List TypedExpr → Except Error (List Value)
  | [] => .ok []
  | e :: rest => do
    let first ← e.evaluate row
    let others ← TypedExpr.evaluateAll row rest
    .ok (first :: others)

/-- The value of the first branch whose condition is true, if there is one. -/
def TypedExpr.firstBranch (row : Row) :
    List (TypedExpr × TypedExpr) → Except Error (Option Value)
  | [] => .ok none
  | (cond, result) :: rest => do
    let v ← cond.evaluate row
    if v.toBool? = some true then do
      let w ← result.evaluate row
      .ok (some w)
    else TypedExpr.firstBranch row rest

/-- The value of the alternative of a case expression; null without one. -/
def TypedExpr.evaluateOtherwise (row : Row) : Option TypedExpr → Except Error Value
  | none => .ok .null
  | some e => e.evaluate row

end

namespace TypedExpr

variable (row : Row)

/-! ### Evaluation of each form -/

theorem evaluate_column (i : Nat) (type : DataType) :
    (column i type).evaluate row = .ok (row.get i) := rfl

theorem evaluate_literal (v : Value) : (literal v).evaluate row = .ok v := rfl

theorem evaluate_cast (e : TypedExpr) (target : DataType) :
    (cast e target).evaluate row = e.evaluate row >>= fun v => v.cast target := rfl

theorem evaluate_not (e : TypedExpr) :
    (not e).evaluate row =
      e.evaluate row >>= fun v => .ok (.ofTruth (v.toBool?.map Bool.not)) := rfl

theorem evaluate_connect (op : Connective) (left right : TypedExpr) :
    (connect op left right).evaluate row =
      left.evaluate row >>= fun l =>
        if l.toBool? = some op.decisive then .ok (.boolean op.decisive)
        else right.evaluate row >>= fun r =>
          .ok (.ofTruth (op.decide? l.toBool? r.toBool?)) := rfl

theorem evaluate_isNull (e : TypedExpr) (negated : Bool) :
    (isNull e negated).evaluate row =
      e.evaluate row >>= fun v => .ok (.boolean (v.isNull != negated)) := rfl

theorem evaluate_case (branches : List (TypedExpr × TypedExpr)) (otherwise : Option TypedExpr)
    (type : DataType) :
    (case branches otherwise type).evaluate row =
      firstBranch row branches >>= fun taken =>
        match taken with
        | some v => .ok v
        | none => evaluateOtherwise row otherwise := rfl

theorem evaluate_compare (op : CompareOp) (left right : TypedExpr) :
    (compare op left right).evaluate row =
      left.evaluate row >>= fun l => right.evaluate row >>= fun r =>
        .ok (op.onValues l r) := rfl

theorem evaluate_arith (op : ArithOp) (left right : TypedExpr) (type : DataType) :
    (arith op left right type).evaluate row =
      left.evaluate row >>= fun l => right.evaluate row >>= fun r => op.onValues l r := rfl

theorem evaluate_apply (function : ScalarFunction) (arguments : List TypedExpr)
    (type : DataType) :
    (apply function arguments type).evaluate row =
      evaluateAll row arguments >>= fun values => function.call values := rfl

theorem evaluateAll_nil : evaluateAll row [] = .ok [] := rfl

theorem evaluateAll_cons (e : TypedExpr) (rest : List TypedExpr) :
    evaluateAll row (e :: rest) =
      e.evaluate row >>= fun first => evaluateAll row rest >>= fun others =>
        .ok (first :: others) := rfl

theorem firstBranch_nil : firstBranch row [] = .ok none := rfl

theorem firstBranch_cons (cond result : TypedExpr) (rest : List (TypedExpr × TypedExpr)) :
    firstBranch row ((cond, result) :: rest) =
      cond.evaluate row >>= fun v =>
        if v.toBool? = some true then result.evaluate row >>= fun w => .ok (some w)
        else firstBranch row rest := rfl

theorem evaluateOtherwise_none : evaluateOtherwise row none = .ok .null := rfl

theorem evaluateOtherwise_some (e : TypedExpr) :
    evaluateOtherwise row (some e) = e.evaluate row := rfl

end TypedExpr

/-- The value of a compiled expression on a row. -/
def CompiledExpr.evaluate (e : CompiledExpr) (row : Row) : Except Error Value :=
  e.typed.evaluate row

end StreamPlan
