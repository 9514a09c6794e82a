import StreamPlan.DataType.Reader
import StreamPlan.Json.Word

/-!
# Column types in JSON

A type without parameters is written as its name, every other type as a variant with
its parameters.

Main results:

- `DataType.toJson`, `DataType.ofJson?`: writing and reading a type.
- `DataType.ofJson?_toJson`: a written type is read back.
-/

namespace StreamPlan

/-- A time unit as its name. -/
def TimeUnit.toJson (unit : TimeUnit) : Json := .str (DataType.unitText unit)

/-- The time unit that a name stands for. -/
def TimeUnit.ofJson? (j : Json) : Option TimeUnit := j.named? DataType.timeUnits DataType.unitText

/-- An interval unit as its name. -/
def IntervalUnit.toJson (unit : IntervalUnit) : Json := .str (DataType.intervalText unit)

/-- The interval unit that a name stands for. -/
def IntervalUnit.ofJson? (j : Json) : Option IntervalUnit :=
  j.named? DataType.intervalUnits DataType.intervalText

namespace DataType

/-- A type as its name, or as a variant with its parameters. -/
def toJson : DataType → Json
  | timestamp unit zone => .variant "Timestamp" (.arr [unit.toJson, .ofOption .str zone])
  | time32 unit => .variant "Time32" unit.toJson
  | time64 unit => .variant "Time64" unit.toJson
  | duration unit => .variant "Duration" unit.toJson
  | interval unit => .variant "Interval" unit.toJson
  | fixedSizeBinary width => .variant "FixedSizeBinary" (.int width.toInt)
  | dictionary key value => .variant "Dictionary" (.arr [key.toJson, value.toJson])
  | decimal128 precision scale =>
    .variant "Decimal128" (.arr [.ofNat precision.toNat, .int scale.toInt])
  | decimal256 precision scale =>
    .variant "Decimal256" (.arr [.ofNat precision.toNat, .int scale.toInt])
  | type => .str type.text

/-- The type without parameters that a name stands for. -/
def ofName? (name : String) : Option DataType := plainTypes.find? fun type => type.text == name

/-- Unit and zone of a timestamp. -/
def timestampOf? (content : Json) : Option DataType := do
  let (unit, zone) ← content.pair?
  let unit ← TimeUnit.ofJson? unit
  let zone ← zone.orNull? Json.str?
  some (timestamp unit zone)

/-- Precision and scale of a decimal. -/
def decimalOf? (make : UInt8 → Int8 → DataType) (content : Json) : Option DataType := do
  let (precision, scale) ← content.pair?
  let precision ← precision.uint8?
  let scale ← scale.int8?
  some (make precision scale)

/-- The type that a variant other than a dictionary is. -/
def ofVariant? (name : String) (content : Json) : Option DataType :=
  match name with
  | "Timestamp" => timestampOf? content
  | "Time32" => (TimeUnit.ofJson? content).map time32
  | "Time64" => (TimeUnit.ofJson? content).map time64
  | "Duration" => (TimeUnit.ofJson? content).map duration
  | "Interval" => (IntervalUnit.ofJson? content).map interval
  | "FixedSizeBinary" => content.int32?.map fixedSizeBinary
  | "Decimal128" => decimalOf? decimal128 content
  | "Decimal256" => decimalOf? decimal256 content
  | _ => none

/-- The type that a JSON value stands for. -/
def ofJson? : Json → Option DataType
  | .str name => ofName? name
  | .obj [(name, .null)] => ofName? name
  | .obj [("Dictionary", .arr [key, value])] => do
    let key ← ofJson? key
    let value ← ofJson? value
    some (dictionary key value)
  | .obj [(name, content)] => ofVariant? name content
  | _ => none

end DataType

/-! ## What is written is read -/

/-- A time unit is read back. -/
@[simp] theorem TimeUnit.ofJson?_toJson (unit : TimeUnit) :
    TimeUnit.ofJson? unit.toJson = some unit := by
  cases unit <;> rfl

/-- An interval unit is read back. -/
@[simp] theorem IntervalUnit.ofJson?_toJson (unit : IntervalUnit) :
    IntervalUnit.ofJson? unit.toJson = some unit := by
  cases unit <;> rfl

/-- A written type is read back. -/
@[simp] theorem DataType.ofJson?_toJson (type : DataType) :
    DataType.ofJson? type.toJson = some type := by
  induction type with
  | dictionary key value hkey hvalue =>
    simp [toJson, Json.variant, ofJson?, hkey, hvalue]
  | timestamp unit zone =>
    cases zone <;>
      simp [toJson, Json.variant, ofJson?, ofVariant?, timestampOf?, Json.pair?, Json.ofOption,
        Json.orNull?, Json.str?]
  | fixedSizeBinary width => simp [toJson, Json.variant, ofJson?, ofVariant?]
  | decimal128 precision scale =>
    simp [toJson, Json.variant, ofJson?, ofVariant?, decimalOf?, Json.pair?]
  | decimal256 precision scale =>
    simp [toJson, Json.variant, ofJson?, ofVariant?, decimalOf?, Json.pair?]
  | time32 unit => cases unit <;> rfl
  | time64 unit => cases unit <;> rfl
  | duration unit => cases unit <;> rfl
  | interval unit => cases unit <;> rfl
  | _ => rfl

end StreamPlan
