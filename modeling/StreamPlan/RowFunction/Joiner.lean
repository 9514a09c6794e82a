import StreamPlan.Schema
import StreamPlan.Value

/-!
# Joiners

A joiner puts the values of the right row behind those of the left one.  A missing
side counts as a row of nulls.

Main results:

- `Joiner.join`: the joined row.
- `Joiner.length_side`: a side has the declared number of values, missing or not.
-/

namespace StreamPlan

/-- The widths of the two sides of a join. -/
structure Joiner where
  leftWidth : Nat
  rightWidth : Nat
deriving DecidableEq, Repr

namespace Joiner

/-- The joiner of rows of two schemas. -/
def ofSchemas (left right : Schema) : Joiner := ⟨left.width, right.width⟩

/-- The values of one side; nulls when it is missing. -/
def side (width : Nat) (row : Option Row) : List Value :=
  match row with
  | some row => row.columns
  | none => List.replicate width .null

/-- The joined row of two sides. -/
def join (joiner : Joiner) (left right : Option Row) : Row :=
  ⟨side joiner.leftWidth left ++ side joiner.rightWidth right⟩

/-- A joiner in messages. -/
def debugText (joiner : Joiner) : String :=
  "ValueJoiner \x7b left_width: " ++ toString joiner.leftWidth ++ ", right_width: " ++
    toString joiner.rightWidth ++ " \x7d"

/-- A side of the declared width keeps it. -/
theorem length_side {width : Nat} {row : Option Row} (h : ∀ r, row = some r → r.width = width) :
    (side width row).length = width := by
  cases row with
  | none => simp [side]
  | some r => exact h r rfl

end Joiner

end StreamPlan
