import StreamPlan.Schema
import StreamPlan.Value

/-!
# Expressions

Scalar expressions over the columns of one schema, the items of a projection, and
the aggregate calls of a grouping.

Main results:

- `Expr.induct`: induction over nested expressions.
-/

namespace StreamPlan

/-- A literal; a time literal keeps its text until it is compiled. -/
inductive Literal where
  | int32 (n : Int32)
  | int64 (n : Int64)
  | float64 (x : Float)
  | utf8 (s : String)
  | boolean (b : Bool)
  | time (text : String)
  | null
deriving DecidableEq, Repr

/-- The comparisons. -/
inductive CompareOp where
  | eq
  | ne
  | lt
  | le
  | gt
  | ge
deriving DecidableEq, Repr

/-- The arithmetic operations. -/
inductive ArithOp where
  | plus
  | minus
  | times
  | divide
  | modulo
deriving DecidableEq, Repr

/-- The two connectives. -/
inductive Connective where
  | and
  | or
deriving DecidableEq, Repr

/-- A scalar expression. -/
inductive Expr where
  | column (column : ColumnRef)
  | literal (value : Literal)
  | compare (op : CompareOp) (left right : Expr)
  | arith (op : ArithOp) (left right : Expr)
  | cast (inner : Expr) (target : DataType)
  | connect (op : Connective) (left right : Expr)
  | not (inner : Expr)
  | isNull (inner : Expr)
  | isNotNull (inner : Expr)
  /-- The first branch whose condition is true gives the result. -/
  | case (branches : List (Expr × Expr)) (otherwise : Option Expr)
  | call (name : String) (arguments : List Expr)

/-- Whether a comparison only asks for equality. -/
def CompareOp.isEquality : CompareOp → Bool
  | .eq | .ne => true
  | _ => false

/-- The comparison with its sides exchanged. -/
def CompareOp.flip : CompareOp → CompareOp
  | .eq => .eq
  | .ne => .ne
  | .lt => .gt
  | .le => .ge
  | .gt => .lt
  | .ge => .le

/-- Whether an order of two values satisfies the comparison. -/
def CompareOp.holds : CompareOp → Ordering → Bool
  | .eq, order => order == .eq
  | .ne, order => order != .eq
  | .lt, order => order == .lt
  | .le, order => order != .gt
  | .gt, order => order == .gt
  | .ge, order => order != .lt

/-- A comparison turned around holds for the order turned around. -/
theorem CompareOp.holds_flip (op : CompareOp) (order : Ordering) :
    op.flip.holds order.swap = op.holds order := by
  cases op <;> cases order <;> rfl

namespace Expr

/-- The column an expression refers to, if it is a bare reference. -/
def asColumn? : Expr → Option ColumnRef
  | column c => some c
  | _ => none

/-- Induction over expressions: a property that passes from the parts to the whole
holds of every expression. -/
theorem induct {motive : Expr → Prop}
    (column : ∀ c, motive (column c))
    (literal : ∀ v, motive (literal v))
    (compare : ∀ op l r, motive l → motive r → motive (compare op l r))
    (arith : ∀ op l r, motive l → motive r → motive (arith op l r))
    (cast : ∀ e t, motive e → motive (cast e t))
    (connect : ∀ op l r, motive l → motive r → motive (connect op l r))
    (not : ∀ e, motive e → motive (not e))
    (isNull : ∀ e, motive e → motive (isNull e))
    (isNotNull : ∀ e, motive e → motive (isNotNull e))
    (case : ∀ branches otherwise, (∀ b ∈ branches, motive b.1 ∧ motive b.2) →
      (∀ e, otherwise = some e → motive e) → motive (case branches otherwise))
    (call : ∀ name arguments, (∀ e ∈ arguments, motive e) → motive (call name arguments))
    (e : Expr) : motive e :=
  Expr.rec (motive_1 := motive)
    (motive_2 := fun branches => ∀ b ∈ branches, motive b.1 ∧ motive b.2)
    (motive_3 := fun otherwise => ∀ e, otherwise = some e → motive e)
    (motive_4 := fun arguments => ∀ e ∈ arguments, motive e)
    (motive_5 := fun branch => motive branch.1 ∧ motive branch.2)
    column literal compare arith cast connect not isNull isNotNull case call
    (fun _ h => absurd h List.not_mem_nil)
    (fun _ _ hhead htail b hb => by
      rcases List.mem_cons.1 hb with rfl | hb
      · exact hhead
      · exact htail b hb)
    (fun _ h => by cases h)
    (fun _ h _ he => Option.some.inj he ▸ h)
    (fun _ h => absurd h List.not_mem_nil)
    (fun _ _ hhead htail e he => by
      rcases List.mem_cons.1 he with rfl | he
      · exact hhead
      · exact htail e he)
    (fun _ _ hc hr => ⟨hc, hr⟩)
    e

end Expr

/-- One output column of a projection. -/
structure SelectItem where
  name : String
  expr : Expr

/-- An aggregate call. -/
inductive AggregateCall where
  | countAll
  | count (argument : Expr)
  | sum (argument : Expr)
  | min (argument : Expr)
  | max (argument : Expr)

/-- The argument of an aggregate call. -/
def AggregateCall.argument? : AggregateCall → Option Expr
  | countAll => none
  | count e | sum e | min e | max e => some e

/-- Whether a call counts rows. -/
def AggregateCall.isCount : AggregateCall → Bool
  | countAll | count _ => true
  | _ => false

/-- One output column of an aggregation. -/
structure AggregateItem where
  name : String
  call : AggregateCall

end StreamPlan
