import Mathlib.Data.List.Forall2
import StreamPlan.Proofs.Expr.TypeSoundness
import StreamPlan.Proofs.RowFunction.SelectList
import StreamPlan.RowFunction.Joiner
import StreamPlan.RowFunction.SinkColumns

/-!
# Rows that conform to schemas

A row conforms to a schema when it has one value per field and each value fits the type of
its field.  Schemas are put together when a plan is built and rows when it runs, by different
functions; here the two are shown to stay in step.

Main results:

- `Row.Conforms`, `Row.conforms_iff`: width and types at once.
- `Projection.conforms_applyRow`: projected rows.
- `Joiner.conforms_join`: joined rows, with either side missing.
- `SinkColumns.conforms_applyRow`: written rows, whatever columns are left out.
-/

namespace StreamPlan

/-- The row has exactly one value per field, and each fits the type of its field. -/
def Row.Conforms (row : Row) (schema : Schema) : Prop :=
  List.Forall₂ (fun v (field : Field) => v.Fits field.type) row.columns schema.fields

/-- A row conforms when it has the width of the schema and its columns fit. -/
theorem Row.conforms_iff {row : Row} {schema : Schema} :
    row.Conforms schema ↔ row.width = schema.width ∧ row.Fits schema := by
  unfold Conforms
  rw [List.forall₂_iff_get]
  refine and_congr_right fun hlength => ⟨fun h i hi => ?_, fun h i hi hi' => ?_⟩
  · have hrow : i < row.columns.length := hlength ▸ hi
    have hfit := h i hrow hi
    simpa [get, Schema.typeAt, Schema.fieldAt, List.getElem?_eq_getElem hrow,
      List.getElem?_eq_getElem (show i < schema.fields.length from hi)] using hfit
  · have hfit := h i hi'
    simpa [get, Schema.typeAt, Schema.fieldAt, List.getElem?_eq_getElem hi,
      List.getElem?_eq_getElem hi'] using hfit

instance (row : Row) (schema : Schema) : Decidable (row.Conforms schema) :=
  decidable_of_iff _ Row.conforms_iff.symm

/-- The columns of a conforming row fit the schema. -/
theorem Row.Conforms.fits {row : Row} {schema : Schema} (h : row.Conforms schema) :
    row.Fits schema := (Row.conforms_iff.1 h).2

/-- A row of nulls conforms to every schema of its width. -/
theorem Row.conforms_nulls (schema : Schema) : (Row.nulls schema.width).Conforms schema := by
  rw [Row.conforms_iff]
  refine ⟨by simp [nulls, width], fun i _ => ?_⟩
  rw [get_nulls]
  exact Value.null_fits _

/-! ## Projections -/

/-- A value or null in place of a failure fits a type when the values do. -/
theorem valueOrNull_fits {outcome : Except Error Value} {type : DataType}
    (h : ∀ v, outcome = .ok v → v.Fits type) : (valueOrNull outcome).Fits type := by
  cases outcome with
  | error => exact Value.null_fits type
  | ok v => exact h v rfl

/-- Over functions that keep their types, projected rows conform to the fields of the
projection, failing items included. -/
theorem Projection.conforms_applyRow {schema : Schema} {functions : Registry} {context : String}
    (hfunctions : functions.KeepsTypes) {items : List SelectItem} {compiled : List CompiledExpr}
    (h : Expr.compileAll context schema functions (items.map (·.expr)) = .ok compiled) {row : Row}
    (hrow : row.Fits schema) :
    ((Projection.ofItems items compiled).applyRow row).Conforms
      ⟨(Projection.ofItems items compiled).fields⟩ := by
  unfold Row.Conforms applyRow fields
  rw [List.forall₂_map_left_iff, List.forall₂_map_right_iff, List.forall₂_same]
  intro column hcolumn
  obtain ⟨e, -, hcompiled⟩ :=
    exists_mem_of_forall₂ (Expr.forall₂_of_compileAll h) (List.of_mem_zip hcolumn).2
  obtain ⟨t, ht, htyped⟩ := Expr.compile_eq_ok_iff.1 hcompiled
  refine valueOrNull_fits fun v hv => ?_
  rw [htyped] at hv ⊢
  exact Expr.sound_typed hfunctions e t ht row hrow v hv

/-! ## Joins -/

/-- The values of one side conform, those of a missing side too. -/
theorem Joiner.conforms_side {schema : Schema} {row : Option Row}
    (h : ∀ r, row = some r → r.Conforms schema) :
    (Row.mk (side schema.width row)).Conforms schema := by
  cases row with
  | none => exact Row.conforms_nulls schema
  | some r => exact h r rfl

/-- Joined rows conform to both schemas in a row, with either or both sides missing. -/
theorem Joiner.conforms_join {left right : Schema} {l r : Option Row}
    (hl : ∀ row, l = some row → row.Conforms left)
    (hr : ∀ row, r = some row → row.Conforms right) :
    ((Joiner.ofSchemas left right).join l r).Conforms (left.append right) :=
  List.rel_append (conforms_side hl) (conforms_side hr)

/-! ## Sinks -/

/-- Columns that are left out leave the same places in two lists. -/
theorem IndexSet.forall₂_dropFrom {α β : Type} {R : α → β → Prop} (set : IndexSet) {xs : List α}
    {ys : List β} (h : List.Forall₂ R xs ys) :
    List.Forall₂ R (set.dropFrom xs) (set.dropFrom ys) := by
  unfold dropFrom
  -- The positions start anywhere, as they do behind the first elements.
  suffices hoffset : ∀ offset,
      List.Forall₂ R
        (((xs.zipIdx offset).filter fun pair => !set.contains pair.2).map (·.1))
        (((ys.zipIdx offset).filter fun pair => !set.contains pair.2).map (·.1)) from hoffset 0
  induction h with
  | nil => exact fun _ => .nil
  | @cons x y xs ys hxy _ ih =>
    intro offset
    rw [List.zipIdx_cons, List.zipIdx_cons, List.filter_cons, List.filter_cons]
    by_cases hkept : set.contains offset = true
    · simpa [hkept] using ih (offset + 1)
    · simpa [hkept] using And.intro hxy (ih (offset + 1))

/-- Written rows conform to the written schema, whatever columns are left out. -/
theorem SinkColumns.conforms_applyRow (columns : SinkColumns) {row : Row} {schema : Schema}
    (h : row.Conforms schema) : (columns.applyRow row).Conforms (columns.applySchema schema) :=
  columns.dropped.forall₂_dropFrom h

end StreamPlan
