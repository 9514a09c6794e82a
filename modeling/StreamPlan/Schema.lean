import StreamPlan.DataType
import StreamPlan.Text.Split

/-!
# Schemas

A schema is the list of named, typed columns of a stream.  A column may carry the
alias of the source it came from in front of its name, as in `O.ID`.

Main results:

- `splitAlias_fullName`: a dot-free alias is found again in a full name.
- `Schema.indexOf?_eq_some`: the first field of a name is found.
- `Schema.firstRepeated?_eq_none_iff`: no name is repeated exactly when the names
  are pairwise distinct.
-/

namespace StreamPlan

/-! ## Names -/

/-- A reference to a column, optionally qualified by a source alias. -/
structure ColumnRef where
  qualifier : Option String
  name : String
deriving DecidableEq, Repr

/-- Alias and name, with a dot between them, or just the name. -/
def ColumnRef.fullName (column : ColumnRef) : String :=
  match column.qualifier with
  | some source => source ++ "." ++ column.name
  | none => column.name

/-- The parts of a column name before and after its first dot. -/
def splitAlias (name : String) : Option String × String :=
  match Text.splitFirst '.' name.toList with
  | some (source, rest) => (some (String.ofList source), String.ofList rest)
  | none => (none, name)

/-- A column name without its alias. -/
def stripAlias (name : String) : String := (splitAlias name).2

/-- The reference that a column name spells. -/
def ColumnRef.ofName (name : String) : ColumnRef :=
  ⟨(splitAlias name).1, (splitAlias name).2⟩

/-- Whether two aliases contradict each other: both are there and they differ. -/
def aliasesConflict : Option String → Option String → Bool
  | some a, some b => a != b
  | _, _ => false

/-- A name without a dot has no alias. -/
theorem splitAlias_of_dotFree {name : String} (h : '.' ∉ name.toList) :
    splitAlias name = (none, name) := by
  simp [splitAlias, Text.splitFirst_eq_none_iff.2 h]

/-- A dot-free alias is found again in a full name. -/
theorem splitAlias_fullName {source name : String} (h : '.' ∉ source.toList) :
    splitAlias (ColumnRef.fullName ⟨some source, name⟩) = (some source, name) := by
  have hs : Text.splitFirst '.' (source ++ "." ++ name).toList =
      some (source.toList, name.toList) := by
    rw [Text.splitFirst_eq_some]
    refine ⟨?_, h⟩
    rw [String.toList_append, String.toList_append, List.append_assoc]
    rfl
  simp only [splitAlias, ColumnRef.fullName, hs, String.ofList_toList]

/-! ## Fields -/

/-- A named, typed column; every column may hold nulls. -/
structure Field where
  name : String
  type : DataType
deriving DecidableEq, Repr

/-- The columns of a stream, in order. -/
structure Schema where
  fields : List Field
deriving DecidableEq, Repr

namespace Schema

/-- The number of columns. -/
def width (schema : Schema) : Nat := schema.fields.length

/-- The names of the columns, in order. -/
def names (schema : Schema) : List String := schema.fields.map (·.name)

/-- The position of the first field with a name. -/
def indexOf? (schema : Schema) (name : String) : Option Nat :=
  schema.fields.findIdx? (·.name == name)

/-- The columns in brackets, each with the spelling of its type. -/
def text (schema : Schema) : String :=
  Text.listText (fun field => field.name ++ " : " ++ field.type.sqlName) schema.fields

/-- The fields of one schema followed by those of another. -/
def append (left right : Schema) : Schema := ⟨left.fields ++ right.fields⟩

/-- The first field of a name is found. -/
theorem indexOf?_eq_some {schema : Schema} {name : String} {i : Nat}
    (h : schema.indexOf? name = some i) :
    ∃ field, schema.fields[i]? = some field ∧ field.name = name := by
  obtain ⟨hi, hp, -⟩ := List.findIdx?_eq_some_iff_getElem.1 h
  exact ⟨schema.fields[i], List.getElem?_eq_getElem hi, by simpa using hp⟩

/-- A name is not found exactly when no field has it. -/
theorem indexOf?_eq_none_iff {schema : Schema} {name : String} :
    schema.indexOf? name = none ↔ name ∉ schema.names := by
  simp only [indexOf?, List.findIdx?_eq_none_iff, names, List.mem_map, not_exists, not_and,
    beq_eq_false_iff_ne, ne_eq]

/-! ## Distinct names -/

/-- The first of `names` that occurs in `seen` or earlier in the list. -/
def firstRepeatedAfter? (seen : List String) : List String → Option String
  | [] => none
  | name :: rest =>
    if name ∈ seen then some name else firstRepeatedAfter? (name :: seen) rest

/-- The first name that an earlier field has too. -/
def firstRepeated? (schema : Schema) : Option String := firstRepeatedAfter? [] schema.names

/-- Nothing is repeated exactly when the names are new and pairwise distinct. -/
theorem firstRepeatedAfter?_eq_none_iff {seen names : List String} :
    firstRepeatedAfter? seen names = none ↔ names.Nodup ∧ ∀ name ∈ names, name ∉ seen := by
  induction names generalizing seen with
  | nil => simp [firstRepeatedAfter?]
  | cons name rest ih =>
    by_cases h : name ∈ seen
    · simp [firstRepeatedAfter?, h]
    · simp only [firstRepeatedAfter?, h, if_false, ih, List.nodup_cons, List.mem_cons,
        not_or, forall_eq_or_imp, not_false_eq_true, true_and]
      constructor
      · rintro ⟨hnd, hall⟩
        exact ⟨⟨fun hmem => (hall name hmem).1 rfl, hnd⟩, fun other hmem => (hall other hmem).2⟩
      · rintro ⟨⟨hnot, hnd⟩, hall⟩
        exact ⟨hnd, fun other hmem => ⟨fun he => hnot (he ▸ hmem), hall other hmem⟩⟩

/-- No name is repeated exactly when the names are pairwise distinct. -/
theorem firstRepeated?_eq_none_iff {schema : Schema} :
    schema.firstRepeated? = none ↔ schema.names.Nodup := by
  simp [firstRepeated?, firstRepeatedAfter?_eq_none_iff]

end Schema

end StreamPlan
