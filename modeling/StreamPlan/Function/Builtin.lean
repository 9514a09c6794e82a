import StreamPlan.Binary64.Rounding
import StreamPlan.Function
import StreamPlan.Text.CaseMapping
import StreamPlan.Text.Part
import StreamPlan.Word

/-!
# Built-in functions

String and number functions that every planner knows.  All of them give null when
an argument is null.

Main results:

- `Registry.builtins`: the registry of the built-in functions.
- `strict_of_null`: a null argument makes the result null.
-/

namespace StreamPlan

namespace Builtin

/-! ## Argument types -/

/-- Whether a type can stand for a string. -/
def isString (type : DataType) : Bool := type == .utf8 || type == .null

/-- Whether a type can stand for an integer. -/
def isInteger (type : DataType) : Bool := type == .int32 || type == .int64 || type == .null

/-- Refuse a wrong number of arguments. -/
def requireArity (arity : Arity) (types : List DataType) : Except Error Unit :=
  if arity.accepts types.length then .ok ()
  else .error (.typing (.wrongArity arity types.length))

/-- Result type of a function of one string. -/
def ofString (result : DataType) (types : List DataType) : Except Error DataType := do
  requireArity (.exactly 1) types
  let type := types.headD .null
  if isString type then .ok result else .error (.typing (.stringExpected type))

/-- Result type of a function of two or more strings. -/
def ofStrings (types : List DataType) : Except Error DataType := do
  requireArity (.atLeast 2) types
  match types.find? fun type => !isString type with
  | some type => .error (.typing (.stringsExpected type))
  | none => .ok .utf8

/-- Result type of a magnitude: the type of the number. -/
def ofMagnitude (types : List DataType) : Except Error DataType := do
  requireArity (.exactly 1) types
  match types.headD .null with
  | .null => .ok .float64
  | type => if type.isNumeric then .ok type else .error (.typing (.numberExpected type))

/-- Result type of rounding. -/
def ofRounding (types : List DataType) : Except Error DataType := do
  requireArity (.exactly 1) types
  let type := types.headD .null
  if type == .null || type.isNumeric then .ok .int64
  else .error (.typing (.numberExpected type))

/-- Result type of cutting a string at one or two positions. -/
def ofCut (types : List DataType) : Except Error DataType := do
  requireArity (.between 2 3) types
  if isString (types.headD .null) && types.tail.all isInteger then .ok .utf8
  else .error (.typing (.cutExpected types))

/-! ## Bodies -/

/-- The argument at a position. -/
def argument (arguments : List Value) (i : Nat) : Value := arguments.getD i .null

/-- A string argument. -/
def stringArgument (arguments : List Value) (i : Nat) : Except Error String :=
  match (argument arguments i).toText? with
  | some s => .ok s
  | none => .error (.evaluation (.unexpectedArgument (argument arguments i)))

/-- An integer argument. -/
def integerArgument (arguments : List Value) (i : Nat) : Except Error Int :=
  match (argument arguments i).toInt? with
  | some n => .ok n
  | none => .error (.evaluation (.unexpectedArgument (argument arguments i)))

/-- An integer result, when it fits. -/
def orOverflow (result : Option Value) : Except Error Value :=
  match result with
  | some v => .ok v
  | none => .error (.evaluation .integerOverflow)

/-- A function of one string, character by character. -/
def onCharacters (f : List Char → List Char) (arguments : List Value) : Except Error Value :=
  (stringArgument arguments 0).map fun s => .utf8 (String.ofList (f s.toList))

/-- The number of characters of a string, at most the largest 32-bit integer. -/
def length (arguments : List Value) : Except Error Value :=
  (stringArgument arguments 0).map fun s =>
    .int32 (Int32.ofNat (min s.toList.length 0x7FFFFFFF))

/-- All strings one after the other. -/
def concat (arguments : List Value) : Except Error Value :=
  ((List.range arguments.length).mapM (stringArgument arguments)).map fun parts =>
    .utf8 (String.join parts)

/-- The number without its sign. -/
def magnitude (arguments : List Value) : Except Error Value :=
  match argument arguments 0 with
  | .int32 n => orOverflow ((Word.int32? n.toInt.natAbs).map .int32)
  | .int64 n => orOverflow ((Word.int64? n.toInt.natAbs).map .int64)
  | .float64 x => .ok (.float64 (Binary64.ofBits (Binary64.magnitude x)))
  | other => .error (.evaluation (.unexpectedArgument other))

/-- The nearest integer. -/
def round (arguments : List Value) : Except Error Value :=
  match argument arguments 0 with
  | .float64 x => .ok (.int64 (Int64.ofInt (Binary64.rounded x)))
  | .int32 n => .ok (.int64 (Int64.ofInt n.toInt))
  | .int64 n => .ok (.int64 n)
  | other => .error (.evaluation (.unexpectedArgument other))

/-- The part of a string from a position that counts from one, with an optional length. -/
def substring (arguments : List Value) : Except Error Value := do
  let s ← stringArgument arguments 0
  let position ← integerArgument arguments 1
  if arguments.length ≤ 2 then .ok (.utf8 (Text.part s position none))
  else
    let count ← integerArgument arguments 2
    .ok (.utf8 (Text.part s position (some count)))

/-- Null when an argument is null, otherwise the value of the body. -/
def strict (body : List Value → Except Error Value) (arguments : List Value) :
    Except Error Value :=
  if arguments.any Value.isNull then .ok .null else body arguments

/-- A null argument makes the result null. -/
theorem strict_of_null {body : List Value → Except Error Value} {arguments : List Value}
    (h : Value.null ∈ arguments) : strict body arguments = .ok .null := by
  have : arguments.any Value.isNull = true := List.any_eq_true.2 ⟨_, h, rfl⟩
  simp [strict, this]

/-! ## The functions -/

/-- A function that gives null for null. -/
def function (name : String) (returnType : List DataType → Except Error DataType)
    (body : List Value → Except Error Value) : ScalarFunction :=
  ⟨name, returnType, strict body⟩

/-- The built-in functions. -/
def all : List ScalarFunction :=
  [ function "UCASE" (ofString .utf8) (onCharacters Text.upperCase),
    function "LCASE" (ofString .utf8) (onCharacters Text.lowerCase),
    function "TRIM" (ofString .utf8) (onCharacters Text.trim),
    function "LEN" (ofString .int32) length,
    function "CONCAT" ofStrings concat,
    function "ABS" ofMagnitude magnitude,
    function "ROUND" ofRounding round,
    function "SUBSTRING" ofCut substring ]

end Builtin

/-- The registry of the built-in functions. -/
def Registry.builtins : Registry := Builtin.all.foldl Registry.register Registry.empty

end StreamPlan
