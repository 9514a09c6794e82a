import StreamPlan.KeyField
import StreamPlan.Value

/-!
# Records

A record is a key and a row.  A record without a row is a tombstone: it says that
the key has no row any more.  A key may carry the time window it belongs to.

Main results:

- `RecordKey.text`: the text of a key with its window.
- `RecordKey.sameAs`: when two keys are the same.
-/

namespace StreamPlan

/-- The half-open time window from `start` up to `stop`, in milliseconds. -/
structure TimeWindow where
  start : Int64
  stop : Int64
deriving DecidableEq, Repr

/-- The key of a record. -/
inductive RecordKey where
  | plain (value : Value)
  | windowed (value : Value) (window : TimeWindow)
deriving DecidableEq, Repr

namespace RecordKey

/-- The key without its window. -/
def value : RecordKey → Value
  | plain v => v
  | windowed v _ => v

/-- The window of a key, if it has one. -/
def window? : RecordKey → Option TimeWindow
  | plain _ => none
  | windowed _ w => some w

/-- The format of a key. -/
def format : RecordKey → KeyFormat
  | plain _ => .plain
  | windowed .. => .windowed

/-- The text of a key: its value and any window. -/
def text : RecordKey → String
  | plain v => v.text
  | windowed v w =>
    v.text ++ "@[" ++ toString w.start.toInt ++ ", " ++ toString w.stop.toInt ++ ")"

/-- Whether two keys are the same, with the same window. -/
def sameAs : RecordKey → RecordKey → Bool
  | plain a, plain b => a.sameAs b
  | windowed a v, windowed b w => a.sameAs b && v == w
  | _, _ => false

end RecordKey

/-- A record of a stream or table; without a row it is a tombstone. -/
structure Record where
  key : RecordKey
  row : Option Row
deriving DecidableEq, Repr

end StreamPlan
