import StreamPlan.Error
import StreamPlan.Word

/-!
# Planner configuration

Names of the columns the planner adds or fills, and the defaults of sinks.  A
configuration is read from properties laid over the defaults.

Main results:

- `Config.validate_eq_ok_iff`: what a valid configuration satisfies.
- `Config.ofProperties`: reading properties.
-/

namespace StreamPlan

/-- The configuration of a planner. -/
structure Config where
  /-- The column that carries the record key. -/
  keyColumn : String
  /-- The column that shows where the window of a key starts. -/
  windowStartColumn : String
  /-- The column that shows where the window of a key ends. -/
  windowEndColumn : String
  /-- The partitions of a sink that sets none. -/
  sinkPartitions : UInt32
  /-- The replicas of a sink that sets none. -/
  sinkReplicas : UInt16
deriving DecidableEq, Repr

namespace Config

/-- The configuration without any property. -/
def default : Config := ⟨"ROWKEY", "WINDOWSTART", "WINDOWEND", 4, 1⟩

/-- Refuse an empty name. -/
def requireName (what name : String) : Except Error Unit :=
  if name.isEmpty then .error (.config (.emptyName what)) else .ok ()

/-- Refuse empty or shared column names and sinks without partitions or replicas. -/
def validate (config : Config) : Except Error Unit := do
  requireName "key column" config.keyColumn
  requireName "window start column" config.windowStartColumn
  requireName "window end column" config.windowEndColumn
  if config.windowStartColumn = config.windowEndColumn then
    .error (.config (.sharedWindowName config.windowStartColumn))
  else if config.sinkPartitions = 0 then .error (.config .noPartitions)
  else if config.sinkReplicas = 0 then .error (.config .noReplicas)
  else .ok ()

/-! ## Properties -/

/-- What the keys of the planner's properties begin with; other keys are not its own. -/
def propertyMark : String := "planner."

/-- The text without surrounding blanks. -/
def trimmed (s : String) : String := String.ofList (Text.trim s.toList)

/-- The number that a property holds. -/
def readNumber (key value : String) : Except Error Nat :=
  match Text.readUnsigned? (Text.trim value.toList) with
  | some n => .ok n
  | none => .error (.config (.notANumber key value))

/-- A number that fits its word. -/
def requireWord {α : Type} (key value : String) : Option α → Except Error α
  | some word => .ok word
  | none => .error (.config (.notANumber key value))

/-- Lay one property over a configuration; keys of others are ignored. -/
def setProperty (config : Config) (key value : String) : Except Error Config :=
  if key = propertyMark ++ "key.column" then .ok { config with keyColumn := trimmed value }
  else if key = propertyMark ++ "window.start.column" then
    .ok { config with windowStartColumn := trimmed value }
  else if key = propertyMark ++ "window.end.column" then
    .ok { config with windowEndColumn := trimmed value }
  else if key = propertyMark ++ "sink.partitions" then do
    let n ← readNumber key value
    let partitions ← requireWord key value (Word.uint32? n)
    .ok { config with sinkPartitions := partitions }
  else if key = propertyMark ++ "sink.replicas" then do
    let n ← readNumber key value
    let replicas ← requireWord key value (Word.uint16? n)
    .ok { config with sinkReplicas := replicas }
  else if propertyMark.toList.isPrefixOf key.toList then
    .error (.config (.unknownProperty key))
  else .ok config

/-- Lay properties over a configuration, one after the other. -/
def setProperties (config : Config) : List (String × String) → Except Error Config
  | [] => .ok config
  | (key, value) :: rest => do
    let config ← config.setProperty key value
    setProperties config rest

/-- The entries of which no later entry has the key. -/
def lastEntries : List (String × String) → List (String × String)
  | [] => []
  | entry :: rest =>
    if rest.any (·.1 == entry.1) then lastEntries rest else entry :: lastEntries rest

/-- The valid configuration that properties describe; of two entries with one key the
later one counts. -/
def ofProperties (properties : List (String × String)) : Except Error Config := do
  let config ← setProperties default (lastEntries properties)
  config.validate
  .ok config

/-- What a valid configuration satisfies. -/
theorem validate_eq_ok_iff {config : Config} :
    config.validate = .ok () ↔
      config.keyColumn.isEmpty = false ∧ config.windowStartColumn.isEmpty = false ∧
        config.windowEndColumn.isEmpty = false ∧
        config.windowStartColumn ≠ config.windowEndColumn ∧
        config.sinkPartitions ≠ 0 ∧ config.sinkReplicas ≠ 0 := by
  unfold validate requireName
  cases config.keyColumn.isEmpty <;> cases config.windowStartColumn.isEmpty <;>
    cases config.windowEndColumn.isEmpty <;>
    by_cases h1 : config.windowStartColumn = config.windowEndColumn <;>
    by_cases h2 : config.sinkPartitions = 0 <;>
    by_cases h3 : config.sinkReplicas = 0 <;>
    simp [bind, Except.bind, h1, h2, h3]

end Config

end StreamPlan
