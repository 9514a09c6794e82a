import StreamPlan.Error

/-!
# Operand types

The type on which the operands of an operation meet.  An untyped null takes the
type of the other side; of two numeric types the wider one is taken.

Main results:

- `comparisonType`, `arithmeticType`, `commonType`: where operands and branches meet.
-/

namespace StreamPlan

/-- The type on which the sides of a comparison meet. -/
def comparisonType (op : CompareOp) (left right : DataType) : Except Error DataType :=
  if left = .null then .ok right
  else if right = .null ∨ left = right then
    if left = .boolean ∧ op.isEquality = false then .error (.typing .booleanOrder)
    else .ok left
  else
    match left.wider? right with
    | some type => .ok type
    | none => .error (.typing (.incomparable left right))

/-- The type of an arithmetic operation, on which its sides meet. -/
def arithmeticType (op : ArithOp) (left right : DataType) : Except Error DataType :=
  let type? :=
    if left = .null ∧ right = .null then some .int32
    else if left = .null ∧ right.isNumeric then some right
    else if right = .null ∧ left.isNumeric then some left
    else left.wider? right
  match type? with
  | some type => .ok type
  | none => .error (.typing (.notNumeric op left right))

/-- The common type of a type found so far and the types that follow. -/
def commonTypeWith (found : DataType) : List DataType → Except Error DataType
  | [] => .ok found
  | type :: rest =>
    if type = .null then commonTypeWith found rest
    else if found = .null ∨ found = type then commonTypeWith type rest
    else
      match found.wider? type with
      | some wider => commonTypeWith wider rest
      | none => .error (.typing (.branchMismatch found type))

/-- The common type of branches; the null type when there is none. -/
def commonType (types : List DataType) : Except Error DataType := commonTypeWith .null types

end StreamPlan
