import StreamPlan.Expr.Evaluate
import StreamPlan.Record

/-!
# Projections

A projection computes one output column per item.  An item that fails on a row
gives null there, and a tombstone stays a tombstone.

Main results:

- `Projection.applyRow`, `Projection.apply`: the projected row, and what becomes of a record.
-/

namespace StreamPlan

/-- The value of an evaluation, or null when it failed. -/
def valueOrNull : Except Error Value → Value
  | .ok v => v
  | .error _ => .null

/-- Named output columns with the expressions that compute them. -/
structure Projection where
  columns : List (String × CompiledExpr)

namespace Projection

/-- The names of the output columns. -/
def names (projection : Projection) : List String := projection.columns.map (·.1)

/-- The expressions of the output columns. -/
def expressions (projection : Projection) : List CompiledExpr := projection.columns.map (·.2)

/-- The fields of projected rows. -/
def fields (projection : Projection) : List Field :=
  projection.columns.map fun column => ⟨column.1, column.2.dataType⟩

/-- The projection of a row. -/
def applyRow (projection : Projection) (row : Row) : Row :=
  ⟨projection.columns.map fun column => valueOrNull (column.2.evaluate row)⟩

/-- The projection of a row or a tombstone. -/
def apply (projection : Projection) (row : Option Row) : Option Row :=
  row.map projection.applyRow

/-- A projection in messages. -/
def debugText (projection : Projection) : String :=
  "SelectValueMapper \x7b names: " ++ Text.listText Text.quoted projection.names ++
    ", expressions: " ++ Text.listText CompiledExpr.debugText projection.expressions ++ " \x7d"

end Projection

end StreamPlan
