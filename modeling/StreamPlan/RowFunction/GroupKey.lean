import StreamPlan.Expr.Evaluate

/-!
# Composite grouping keys

The key of a row under a grouping list: the texts of its values, with a separator
between them.

Main results:

- `GroupKey.keyFor_eq`: the key is the joined text of the parts.
- `GroupKey.keyFor_single`: the key of a single part is its text.
-/

namespace StreamPlan

/-- The expressions of a grouping list. -/
structure GroupKey where
  expressions : List CompiledExpr

namespace GroupKey

/-- The text of one part of a key; an expression that fails counts as null. -/
def part (e : CompiledExpr) (row : Row) : String :=
  match e.evaluate row with
  | .ok v => v.text
  | .error _ => Value.null.text

/-- The texts of the parts of a key. -/
def parts (key : GroupKey) (row : Row) : List String :=
  key.expressions.map fun e => part e row

/-- The key of a row. -/
def keyFor (key : GroupKey) (row : Row) : Value :=
  .utf8 (keyDelimiter.intercalate (key.parts row))

/-- The key is the joined text of the parts. -/
theorem keyFor_eq (key : GroupKey) (row : Row) :
    key.keyFor row = .utf8 (keyDelimiter.intercalate (key.parts row)) := rfl

/-- The key of a single expression is the text of its value. -/
theorem keyFor_single {e : CompiledExpr} {row : Row} {v : Value} (h : e.evaluate row = .ok v) :
    (GroupKey.mk [e]).keyFor row = .utf8 v.text := by
  rw [keyFor_eq]
  simp only [parts, List.map_cons, List.map_nil, String.intercalate_singleton, part, h]

end GroupKey

end StreamPlan
