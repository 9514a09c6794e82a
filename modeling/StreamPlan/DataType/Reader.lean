import StreamPlan.DataType
import StreamPlan.Text.Number
import StreamPlan.Word

/-!
# Reading column types

The text of a type is read back into the type.

Main results:

- `DataType.ofText?`: the type with a given text.
-/

namespace StreamPlan.DataType

/-- The types whose text is a bare name. -/
def plainTypes : List DataType :=
  [null, boolean, int8, int16, int32, int64, uint8, uint16, uint32, uint64, float16,
    float32, float64, date32, date64, binary, largeBinary, binaryView, utf8, largeUtf8,
    utf8View]

/-- The time units. -/
def timeUnits : List TimeUnit := [.second, .millisecond, .microsecond, .nanosecond]

/-- The interval units. -/
def intervalUnits : List IntervalUnit := [.yearMonth, .dayTime, .monthDayNano]

/-- The rest of `cs` after `token`. -/
def expect? (token : String) (cs : List Char) : Option (List Char) :=
  if token.toList.isPrefixOf cs then some (cs.drop token.toList.length) else none

/-- A word of letters and digits, and what follows it. -/
def readWord (cs : List Char) : String × List Char :=
  (String.ofList (cs.takeWhile Char.isAlphanum), cs.dropWhile Char.isAlphanum)

/-- A time unit, and what follows it. -/
def readUnit? (cs : List Char) : Option (TimeUnit × List Char) :=
  (timeUnits.find? fun unit => unitText unit == (readWord cs).1).map fun unit =>
    (unit, (readWord cs).2)

/-- An interval unit, and what follows it. -/
def readInterval? (cs : List Char) : Option (IntervalUnit × List Char) :=
  (intervalUnits.find? fun unit => intervalText unit == (readWord cs).1).map fun unit =>
    (unit, (readWord cs).2)

/-- An integer, and what follows it. -/
def readInteger? (cs : List Char) : Option (Int × List Char) :=
  let inNumber (c : Char) : Bool := c.isDigit || c == '-'
  (Text.readInt? (cs.takeWhile inNumber)).map fun n => (n, cs.dropWhile inNumber)

/-- The characters up to a quote before a closing parenthesis, and what follows the two. -/
def readQuoted? : List Char → Option (List Char × List Char)
  | [] => none
  | '\x22' :: ')' :: cs => some ([], cs)
  | c :: cs => (readQuoted? cs).map fun parts => (c :: parts.1, parts.2)

/-- An optional time zone, and what follows it; the zone is taken as it stands between
the quotes. -/
def readZone? (cs : List Char) : Option (Option String × List Char) :=
  match expect? "None" cs with
  | some rest => some (none, rest)
  | none => do
    let rest ← expect? "Some(\x22" cs
    let (zone, rest) ← readQuoted? rest
    return (some (String.ofList zone), rest)

/-- Precision and scale of a decimal, and what follows them. -/
def readDecimal? (cs : List Char) : Option ((UInt8 × Int8) × List Char) := do
  let (precision, rest) ← readInteger? cs
  let rest ← expect? ", " rest
  let (scale, rest) ← readInteger? rest
  let precision ← if 0 ≤ precision then Word.uint8? precision.toNat else none
  let scale ← Word.int8? scale
  return ((precision, scale), rest)

/-- A type, and what follows it; `depth` bounds the nesting of dictionaries. -/
def readType? : Nat → List Char → Option (DataType × List Char)
  | 0, _ => none
  | depth + 1, cs =>
    let (name, rest) := readWord cs
    match rest with
    | '(' :: arguments => do
      let (type, rest) ←
        match name with
        | "Timestamp" => do
          let (unit, rest) ← readUnit? arguments
          let rest ← expect? ", " rest
          let (zone, rest) ← readZone? rest
          pure (timestamp unit zone, rest)
        | "Time32" => (readUnit? arguments).map fun (unit, rest) => (time32 unit, rest)
        | "Time64" => (readUnit? arguments).map fun (unit, rest) => (time64 unit, rest)
        | "Duration" => (readUnit? arguments).map fun (unit, rest) => (duration unit, rest)
        | "Interval" => (readInterval? arguments).map fun (unit, rest) => (interval unit, rest)
        | "FixedSizeBinary" => do
          let (width, rest) ← readInteger? arguments
          let width ← Word.int32? width
          pure (fixedSizeBinary width, rest)
        | "Dictionary" => do
          let (key, rest) ← readType? depth arguments
          let rest ← expect? ", " rest
          let (value, rest) ← readType? depth rest
          pure (dictionary key value, rest)
        | "Decimal128" => (readDecimal? arguments).map fun ((p, s), rest) => (decimal128 p s, rest)
        | "Decimal256" => (readDecimal? arguments).map fun ((p, s), rest) => (decimal256 p s, rest)
        | _ => none
      let rest ← expect? ")" rest
      pure (type, rest)
    | rest => (plainTypes.find? fun type => type.text == name).map fun type => (type, rest)

/-- The type with a given text. -/
def ofText? (s : String) : Option DataType :=
  match readType? (s.toList.length + 1) s.toList with
  | some (type, []) => some type
  | _ => none

end StreamPlan.DataType
