import StreamPlan.Binary64.Text
import StreamPlan.DataType
import StreamPlan.TimeOfDay

/-!
# Values and rows

A value is what one column of one row holds.  `null` has no type of its own: the
type of a column comes from the schema.  A row is a list of values, read beyond
its end as nulls.

Main results:

- `Value.compare?_swap`: comparison of values can be turned around.
- `Row.get_of_width_le`: reading beyond the end gives null.
- `Row.get_set`: what overwriting a column does to the columns of a row.
-/

namespace StreamPlan

/-- One column value. -/
inductive Value where
  | null
  | boolean (b : Bool)
  | int32 (n : Int32)
  | int64 (n : Int64)
  | float64 (x : Float)
  | utf8 (s : String)
  | time (millis : Int32)
deriving DecidableEq, Repr

namespace Value

/-! ## Reading a value -/

/-- Whether the value is null. -/
def isNull : Value → Bool
  | null => true
  | _ => false

/-- The type of a value; `null` has the null type. -/
def dataType : Value → DataType
  | null => .null
  | boolean _ => .boolean
  | int32 _ => .int32
  | int64 _ => .int64
  | float64 _ => .float64
  | utf8 _ => .utf8
  | time _ => .timeOfDay

/-- The truth value of a boolean. -/
def toBool? : Value → Option Bool
  | boolean b => some b
  | _ => none

/-- The integer that an integer value holds. -/
def toInt? : Value → Option Int
  | int32 n => some n.toInt
  | int64 n => some n.toInt
  | _ => none

/-- The double nearest to a numeric value. -/
def toFloat? : Value → Option Float
  | int32 n => some (Float.ofInt n.toInt)
  | int64 n => some (Float.ofInt n.toInt)
  | float64 x => some x
  | _ => none

/-- The text of a string value. -/
def toText? : Value → Option String
  | utf8 s => some s
  | _ => none

/-- Only `null` has the null type. -/
@[simp] theorem dataType_eq_null_iff {v : Value} : v.dataType = .null ↔ v = null := by
  cases v <;> simp [dataType, DataType.timeOfDay]

/-- Only `null` is null. -/
@[simp] theorem isNull_iff {v : Value} : v.isNull = true ↔ v = null := by
  cases v <;> simp [isNull]

/-- Every other value is not. -/
theorem isNull_eq_false {v : Value} (h : v ≠ null) : v.isNull = false := by
  cases v <;> simp_all [isNull]

/-! ## Order and equality -/

/-- The order of two values of one type; nothing when either is null, when the types
differ, and when a double is not a number. -/
def compare? : Value → Value → Option Ordering
  | boolean a, boolean b => some (compare a b)
  | int32 a, int32 b => some (compare a.toInt b.toInt)
  | int64 a, int64 b => some (compare a.toInt b.toInt)
  | float64 a, float64 b => Binary64.compare? a b
  | utf8 a, utf8 b => some (compare a b)
  | time a, time b => some (compare a.toInt b.toInt)
  | _, _ => none

/-- Whether two values are the same: nulls are, zeros are whatever their sign, and a
double that is not a number differs from everything. -/
def sameAs : Value → Value → Bool
  | null, null => true
  | a, b => a.compare? b == some .eq

/-- Comparison of values can be turned around. -/
theorem compare?_swap (a b : Value) : b.compare? a = (a.compare? b).map Ordering.swap := by
  unfold compare?
  split
  case h_4 x y => exact Binary64.compare?_swap y x
  case h_7 h1 h2 h3 h4 h5 h6 =>
    split <;> simp_all
  all_goals exact congrArg some Std.OrientedCmp.eq_swap

/-! ## Text -/

/-- The text of a value. -/
def text : Value → String
  | null => "null"
  | boolean b => if b then "true" else "false"
  | int32 n => toString n.toInt
  | int64 n => toString n.toInt
  | float64 x => Binary64.render .plain x
  | utf8 s => s
  | time millis => TimeOfDay.text millis.toInt

/-- The text of a value in messages: its type and its content. -/
def debugText : Value → String
  | null => "Null"
  | boolean b => "Boolean(" ++ (boolean b).text ++ ")"
  | int32 n => "Int32(" ++ (int32 n).text ++ ")"
  | int64 n => "Int64(" ++ (int64 n).text ++ ")"
  | float64 x => "Float64(" ++ (float64 x).text ++ ")"
  | utf8 s => "Utf8(" ++ Text.quoted s ++ ")"
  | time millis => "Time(" ++ toString millis.toInt ++ ")"

end Value

/-! ## Rows -/

/-- The values of one record, in the order of the columns. -/
structure Row where
  columns : List Value
deriving DecidableEq, Repr

namespace Row

/-- A row of nulls. -/
def nulls (width : Nat) : Row := ⟨List.replicate width .null⟩

/-- The number of columns. -/
def width (row : Row) : Nat := row.columns.length

/-- The value of a column; beyond the end it is null. -/
def get (row : Row) (i : Nat) : Value := row.columns[i]?.getD .null

/-- Overwrite a column; nothing when there is no such column. -/
def set? (row : Row) (i : Nat) (v : Value) : Option Row :=
  if i < row.width then some ⟨row.columns.set i v⟩ else none

/-- Overwrite a column, if there is one. -/
def set (row : Row) (i : Nat) (v : Value) : Row := (row.set? i v).getD row

/-- Add a column at the end. -/
def push (row : Row) (v : Value) : Row := ⟨row.columns ++ [v]⟩

/-- Whether two rows are the same, column by column. -/
def sameAs (a b : Row) : Bool :=
  a.width == b.width && (a.columns.zip b.columns).all fun pair => pair.1.sameAs pair.2

/-- Reading beyond the end gives null. -/
theorem get_of_width_le {row : Row} {i : Nat} (h : row.width ≤ i) : row.get i = .null := by
  simp [get, List.getElem?_eq_none h]

/-- Overwriting changes one column only. -/
theorem get_set (row : Row) (i j : Nat) (v : Value) :
    (row.set i v).get j = if i = j ∧ i < row.width then v else row.get j := by
  unfold set set?
  by_cases h : i < row.width
  · have hl : i < row.columns.length := h
    by_cases hij : i = j
    · subst hij
      simp [get, h, hl]
    · simp [get, h, hij, List.getElem?_set_ne hij]
  · simp [h]

/-- Overwriting keeps the width. -/
@[simp] theorem width_set (row : Row) (i : Nat) (v : Value) : (row.set i v).width = row.width := by
  unfold set set?
  split <;> simp [width]

/-- A row of nulls reads as null everywhere. -/
@[simp] theorem get_nulls (n i : Nat) : (nulls n).get i = .null := by
  unfold get nulls
  by_cases h : i < n
  · simp [h]
  · simp [h]

end Row

end StreamPlan
