import StreamPlan.Binary64.Rounding
import StreamPlan.Error
import StreamPlan.Word

/-!
# Casts

Which casts are defined, and what they make of a value.  Strings are read between
blanks; numbers are narrowed only when they fit.

Main results:

- `cast_null`, `cast_of_dataType_eq`: what a cast keeps.
- `dataType_of_convert?`: a conversion ends in the target type.
- `dataType_of_cast`: so does a cast of anything but null.
-/

namespace StreamPlan

/-- Whether a cast from one type to another is defined. -/
def DataType.castsTo (source target : DataType) : Bool :=
  source == target || source == .null ||
    (source.isNumeric && target.isNumeric) || target == .utf8 ||
    (source == .utf8 &&
      (target == .boolean || target.isNumeric || target == .timeOfDay))

namespace Value

/-- The truth value that a text between blanks spells in any case. -/
def readBool? (s : String) : Option Bool :=
  let word := (Text.trim s.toList).map Char.toLower
  if word = "true".toList then some true
  else if word = "false".toList then some false
  else none

/-- The integer that a text between blanks spells. -/
def readInteger? (s : String) : Option Int := Text.readInt? (Text.trim s.toList)

/-- A value of another type. -/
def convert? : Value → DataType → Option Value
  | v, .utf8 => some (utf8 v.text)
  | int32 n, .int64 => (Word.int64? n.toInt).map int64
  | int32 n, .float64 => some (float64 (Float.ofInt n.toInt))
  | int64 n, .int32 => (Word.int32? n.toInt).map int32
  | int64 n, .float64 => some (float64 (Float.ofInt n.toInt))
  | float64 x, .int32 => ((Binary64.truncated? x).bind Word.int32?).map int32
  | float64 x, .int64 => ((Binary64.truncated? x).bind Word.int64?).map int64
  | utf8 s, .boolean => (readBool? s).map boolean
  | utf8 s, .int32 => ((readInteger? s).bind Word.int32?).map int32
  | utf8 s, .int64 => ((readInteger? s).bind Word.int64?).map int64
  | utf8 s, .float64 => (Binary64.readDecimal? (Text.trim s.toList)).map float64
  | utf8 s, .time32 .millisecond =>
    ((TimeOfDay.parse? s.toList).bind fun n => Word.int32? n).map time
  | _, _ => none

/-- Cast a value: null and a value of the target type stay, anything else is converted
or refused. -/
def cast (v : Value) (target : DataType) : Except Error Value :=
  if v.isNull || v.dataType == target then .ok v
  else
    match v.convert? target with
    | some w => .ok w
    | none => .error (.evaluation (.castFailed v target))

/-- Null stays null. -/
@[simp] theorem cast_null (target : DataType) : null.cast target = .ok null := rfl

/-- A value of the target type stays. -/
theorem cast_of_dataType_eq {v : Value} {target : DataType} (h : v.dataType = target) :
    v.cast target = .ok v := by
  simp [cast, h]

/-- A conversion ends in the target type. -/
theorem dataType_of_convert? {v w : Value} {target : DataType}
    (h : v.convert? target = some w) : w.dataType = target := by
  unfold convert? at h
  split at h
  case h_1 => exact Option.some.inj h ▸ rfl
  case h_3 => exact Option.some.inj h ▸ rfl
  case h_5 => exact Option.some.inj h ▸ rfl
  case h_13 => cases h
  all_goals
    obtain ⟨_, -, rfl⟩ := Option.map_eq_some_iff.1 h
    rfl

/-- A cast of anything but null ends in the target type. -/
theorem dataType_of_cast {v w : Value} {target : DataType} (h : v.cast target = .ok w)
    (hv : v ≠ null) : w.dataType = target := by
  have hn : v.isNull = false := isNull_eq_false hv
  unfold cast at h
  split at h
  · rename_i hc
    obtain rfl := Except.ok.inj h
    simpa [hn] using hc
  · split at h
    · rename_i hc
      obtain rfl := Except.ok.inj h
      exact dataType_of_convert? hc
    · cases h

end Value

/-- The value of a literal; a time literal has to spell a time of day. -/
def Literal.toValue : Literal → Except Error Value
  | int32 n => .ok (.int32 n)
  | int64 n => .ok (.int64 n)
  | float64 x => .ok (.float64 x)
  | utf8 s => .ok (.utf8 s)
  | boolean b => .ok (.boolean b)
  | time s =>
    match (TimeOfDay.parse? s.toList).bind fun n => Word.int32? n with
    | some millis => .ok (.time millis)
    | none => .error (.typing (.invalidTime s))
  | null => .ok .null

end StreamPlan
