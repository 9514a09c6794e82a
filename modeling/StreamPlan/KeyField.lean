import StreamPlan.Schema

/-!
# Key fields

The field by which the records of a stream are partitioned.  A key is a column of
the stream's schema or synthetic, such as the composite key of a grouping.

Main results:

- `KeyField.matchesColumn_iff`: when a reference means the key.
-/

namespace StreamPlan

/-- The key of a stream: its name, its column unless it is synthetic, and its type. -/
structure KeyField where
  name : String
  index : Option Nat
  type : DataType
deriving DecidableEq, Repr

/-- Whether the record key of a stream carries a time window. -/
inductive KeyFormat where
  | plain
  | windowed
deriving DecidableEq, Repr

/-- Whether keys carry a window. -/
def KeyFormat.isWindowed : KeyFormat → Bool
  | .plain => false
  | .windowed => true

/-- The text of a key format. -/
def KeyFormat.text : KeyFormat → String
  | .plain => "Plain"
  | .windowed => "Windowed"

namespace KeyField

/-- The key that is column `i` of a schema. -/
def ofColumn (field : Field) (i : Nat) : KeyField := ⟨field.name, some i, field.type⟩

/-- A key that is no column. -/
def synthetic (name : String) (type : DataType) : KeyField := ⟨name, none, type⟩

/-- Whether the key is no column of the schema. -/
def isSynthetic (key : KeyField) : Bool := key.index.isNone

/-- The name without its alias. -/
def unaliasedName (key : KeyField) : String := stripAlias key.name

/-- The same key under a name and at a position. -/
def relocated (key : KeyField) (name : String) (i : Nat) : KeyField := ⟨name, some i, key.type⟩

/-- Name and position of a key; a synthetic key shows a dash. -/
def text (key : KeyField) : String :=
  key.name ++ "@" ++
    match key.index with
    | some i => toString i
    | none => "-"

/-- Whether a reference means this key: the full names agree, or the bare names do and
the aliases do not contradict each other. -/
def matchesColumn (key : KeyField) (column : ColumnRef) : Bool :=
  key.name == column.fullName ||
    (!aliasesConflict (splitAlias key.name).1 column.qualifier &&
      key.unaliasedName == column.name)

/-- When a reference means the key. -/
theorem matchesColumn_iff {key : KeyField} {column : ColumnRef} :
    key.matchesColumn column = true ↔
      key.name = column.fullName ∨
        (aliasesConflict (splitAlias key.name).1 column.qualifier = false ∧
          key.unaliasedName = column.name) := by
  simp [matchesColumn]

/-- A key is not synthetic when it is a column. -/
theorem isSynthetic_eq_false_iff {key : KeyField} :
    key.isSynthetic = false ↔ ∃ i, key.index = some i := by
  rw [isSynthetic, Option.isNone_eq_false_iff, Option.isSome_iff_exists]

/-- A relocated key keeps its type. -/
@[simp] theorem type_relocated (key : KeyField) (name : String) (i : Nat) :
    (key.relocated name i).type = key.type := rfl

end KeyField

end StreamPlan
