import StreamPlan.Text.Capital
import StreamPlan.Text.Quoted

/-!
# Column types

The types a column can have.  Expressions compute with seven of them (`null`,
`boolean`, `int32`, `int64`, `float64`, `utf8` and the time of day in
milliseconds); columns of the others are carried along untouched.

Main results:

- `DataType.text`: the text of a type in messages.
- `DataType.sqlName`: its spelling in plans and queries.
- `DataType.wider?`: the wider of two numeric types.
-/

namespace StreamPlan

/-- Resolution of times and durations. -/
inductive TimeUnit where
  | second
  | millisecond
  | microsecond
  | nanosecond
deriving DecidableEq, Repr

/-- Resolution of calendar intervals. -/
inductive IntervalUnit where
  | yearMonth
  | dayTime
  | monthDayNano
deriving DecidableEq, Repr

/-- The type of a column or an expression.  The types that are made of other columns (lists,
structures, maps, unions and run-end encoded columns) are left out.  They would be treated as
all types are that expressions do not compute with: carried along, compared for equality, and
named in messages by their text. -/
inductive DataType where
  | null
  | boolean
  | int8
  | int16
  | int32
  | int64
  | uint8
  | uint16
  | uint32
  | uint64
  | float16
  | float32
  | float64
  | timestamp (unit : TimeUnit) (zone : Option String)
  | date32
  | date64
  | time32 (unit : TimeUnit)
  | time64 (unit : TimeUnit)
  | duration (unit : TimeUnit)
  | interval (unit : IntervalUnit)
  | binary
  | fixedSizeBinary (width : Int32)
  | largeBinary
  | binaryView
  | utf8
  | largeUtf8
  | utf8View
  | dictionary (key value : DataType)
  | decimal128 (precision : UInt8) (scale : Int8)
  | decimal256 (precision : UInt8) (scale : Int8)
deriving DecidableEq, Repr

namespace DataType

/-- The type of a time of day: milliseconds since midnight. -/
def timeOfDay : DataType := time32 .millisecond

/-! ## Text -/

/-- Name of a time unit. -/
def unitText : TimeUnit → String
  | .second => "Second"
  | .millisecond => "Millisecond"
  | .microsecond => "Microsecond"
  | .nanosecond => "Nanosecond"

/-- Name of an interval unit. -/
def intervalText : IntervalUnit → String
  | .yearMonth => "YearMonth"
  | .dayTime => "DayTime"
  | .monthDayNano => "MonthDayNano"

/-- The text of a type in messages. -/
def text : DataType → String
  | null => "Null"
  | boolean => "Boolean"
  | int8 => "Int8"
  | int16 => "Int16"
  | int32 => "Int32"
  | int64 => "Int64"
  | uint8 => "UInt8"
  | uint16 => "UInt16"
  | uint32 => "UInt32"
  | uint64 => "UInt64"
  | float16 => "Float16"
  | float32 => "Float32"
  | float64 => "Float64"
  | timestamp unit zone =>
    "Timestamp(" ++ unitText unit ++ ", " ++ Text.optionText Text.quoted zone ++ ")"
  | date32 => "Date32"
  | date64 => "Date64"
  | time32 unit => "Time32(" ++ unitText unit ++ ")"
  | time64 unit => "Time64(" ++ unitText unit ++ ")"
  | duration unit => "Duration(" ++ unitText unit ++ ")"
  | interval unit => "Interval(" ++ intervalText unit ++ ")"
  | binary => "Binary"
  | fixedSizeBinary width => "FixedSizeBinary(" ++ toString width.toInt ++ ")"
  | largeBinary => "LargeBinary"
  | binaryView => "BinaryView"
  | utf8 => "Utf8"
  | largeUtf8 => "LargeUtf8"
  | utf8View => "Utf8View"
  | dictionary key value => "Dictionary(" ++ key.text ++ ", " ++ value.text ++ ")"
  | decimal128 precision scale =>
    "Decimal128(" ++ toString precision.toNat ++ ", " ++ toString scale.toInt ++ ")"
  | decimal256 precision scale =>
    "Decimal256(" ++ toString precision.toNat ++ ", " ++ toString scale.toInt ++ ")"

/-- The spelling of a type in plans and queries: the types expressions compute with
have names of their own, the others show their text in capitals. -/
def sqlName : DataType → String
  | null => "NULL"
  | boolean => "BOOLEAN"
  | int32 => "INT"
  | int64 => "BIGINT"
  | float64 => "DOUBLE"
  | utf8 => "VARCHAR"
  | time32 .millisecond => "TIME"
  | other => Text.asciiUpper other.text

/-! ## Numeric types -/

/-- Position of a numeric type in the order of widening. -/
def numericRank? : DataType → Option Nat
  | int32 => some 1
  | int64 => some 2
  | float64 => some 3
  | _ => none

/-- Whether arithmetic is defined on the type. -/
def isNumeric (t : DataType) : Bool := t.numericRank?.isSome

/-- The wider of two numeric types. -/
def wider? (a b : DataType) : Option DataType :=
  match a.numericRank?, b.numericRank? with
  | some ra, some rb => some (if rb ≤ ra then a else b)
  | _, _ => none

/-- A numeric type has one of three ranks, and its rank tells it apart. -/
theorem numericRank?_eq_some_iff {t : DataType} {r : Nat} :
    t.numericRank? = some r ↔
      (t = int32 ∧ r = 1) ∨ (t = int64 ∧ r = 2) ∨ (t = float64 ∧ r = 3) := by
  cases t <;> simp [numericRank?, eq_comm]

/-- The order of the two types does not matter. -/
theorem wider?_comm (a b : DataType) : wider? a b = wider? b a := by
  unfold wider?
  cases ha : a.numericRank? with
  | none => cases b.numericRank? <;> rfl
  | some ra =>
    cases hb : b.numericRank? with
    | none => rfl
    | some rb =>
      rcases numericRank?_eq_some_iff.1 ha with ⟨rfl, rfl⟩ | ⟨rfl, rfl⟩ | ⟨rfl, rfl⟩ <;>
        rcases numericRank?_eq_some_iff.1 hb with ⟨rfl, rfl⟩ | ⟨rfl, rfl⟩ | ⟨rfl, rfl⟩ <;> rfl

end DataType

end StreamPlan
