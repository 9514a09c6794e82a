import StreamPlan.Error

/-!
# Resolving column references

A reference means the field that bears its full name, or else the only field with
its bare name whose alias does not contradict the reference.

Main results:

- `Schema.resolve_of_fullName`: a full name is found first.
- `Schema.resolve_lt_width`: a resolved position lies in the schema.
- `Schema.requireDistinct_eq_ok_iff`: the check for repeated names.
-/

namespace StreamPlan

/-- Whether a field has the bare name of a reference and no contradicting alias. -/
def ColumnRef.mayMean (column : ColumnRef) (field : Field) : Bool :=
  stripAlias field.name == column.name &&
    !aliasesConflict (splitAlias field.name).1 column.qualifier

namespace Schema

/-- The positions of the fields that a reference may mean by its bare name. -/
def candidates (schema : Schema) (column : ColumnRef) : List Nat :=
  (List.range schema.width).filter fun i =>
    match schema.fields[i]? with
    | some field => column.mayMean field
    | none => false

/-- The position of the field that a reference means. -/
def resolve (schema : Schema) (column : ColumnRef) : Except Error Nat :=
  match schema.indexOf? column.fullName with
  | some i => .ok i
  | none =>
    match schema.candidates column with
    | [i] => .ok i
    | [] => .error (.typing (.unknownColumn column.fullName))
    | _ => .error (.typing (.ambiguousColumn column.fullName))

/-- A field; beyond the end it is a nameless field of the null type. -/
def fieldAt (schema : Schema) (i : Nat) : Field := schema.fields[i]?.getD ⟨"", .null⟩

/-- The type of a column; beyond the end it is the null type. -/
def typeAt (schema : Schema) (i : Nat) : DataType := (schema.fieldAt i).type

/-- Refuse a schema with repeated field names. -/
def requireDistinct (schema : Schema) : Except Error Unit :=
  match schema.firstRepeated? with
  | some name => .error (.mismatch (.duplicateField name))
  | none => .ok ()

/-- A full name is found first. -/
theorem resolve_of_fullName {schema : Schema} {column : ColumnRef} {i : Nat}
    (h : schema.indexOf? column.fullName = some i) : schema.resolve column = .ok i := by
  simp [resolve, h]

/-- Only positions of the schema are candidates. -/
theorem lt_width_of_mem_candidates {schema : Schema} {column : ColumnRef} {i : Nat}
    (h : i ∈ schema.candidates column) : i < schema.width :=
  List.mem_range.1 (List.mem_filter.1 h).1

/-- A resolved position lies in the schema. -/
theorem resolve_lt_width {schema : Schema} {column : ColumnRef} {i : Nat}
    (h : schema.resolve column = .ok i) : i < schema.width := by
  unfold resolve at h
  split at h
  · rename_i j hj
    obtain rfl := Except.ok.inj h
    obtain ⟨field, hfield, -⟩ := indexOf?_eq_some hj
    exact (List.getElem?_eq_some_iff.1 hfield).1
  · split at h
    · rename_i j hj
      obtain rfl := Except.ok.inj h
      exact lt_width_of_mem_candidates (hj ▸ List.mem_singleton.2 rfl)
    · cases h
    · cases h

/-- The check passes exactly when the names are pairwise distinct. -/
theorem requireDistinct_eq_ok_iff {schema : Schema} :
    schema.requireDistinct = .ok () ↔ schema.names.Nodup := by
  rw [← firstRepeated?_eq_none_iff]
  unfold requireDistinct
  split
  · rename_i name h
    simp [h]
  · rename_i h
    simp [h]

end Schema

end StreamPlan
