import StreamPlan.Proofs.Expr.TypedForm
import StreamPlan.RowFunction.Projection

/-!
# Compiled select lists

A select list is compiled item by item, and every item gives one column of the projection:
its type and its value on every row.

Main results:

- `exists_column_of_item`: the column that an item gives.
- `Projection.get_applyRow`, `Projection.typeAt_fields`: value and type of a column.
- `names_ofItems`: the names of the columns.
- `Projection.Copies`: a column that hands on a column of the input.
- `copies_of_reference`: a bare reference hands on the column it resolves to.
-/

namespace StreamPlan

/-- The projection of a select list, given what its items are compiled to. -/
abbrev Projection.ofItems (items : List SelectItem) (compiled : List CompiledExpr) :
    Projection :=
  ⟨(items.map (·.name)).zip compiled⟩

/-- The reference at a place of a select list, if a bare reference stands there. -/
def referenceAt? (items : List SelectItem) (i : Nat) : Option ColumnRef :=
  items[i]?.bind (·.expr.asColumn?)

/-- A bare reference at a place is the expression of the item there. -/
theorem referenceAt?_eq_some_iff {items : List SelectItem} {i : Nat} {column : ColumnRef} :
    referenceAt? items i = some column ↔
      ∃ item, items[i]? = some item ∧ item.expr = .column column := by
  simp only [referenceAt?, Option.bind_eq_some_iff, Expr.asColumn?_eq_some_iff]

/-- The reference at a place is that of the item there. -/
theorem referenceAt?_of_lt {items : List SelectItem} {i : Nat} (hi : i < items.length) :
    referenceAt? items i = items[i].expr.asColumn? := by
  rw [referenceAt?, List.getElem?_eq_getElem hi, Option.bind_some]

/-- A reference stands at a place of the list. -/
theorem lt_length_of_referenceAt? {items : List SelectItem} {i : Nat} {column : ColumnRef}
    (h : referenceAt? items i = some column) : i < items.length := by
  obtain ⟨item, hitem, -⟩ := referenceAt?_eq_some_iff.1 h
  exact (List.getElem?_eq_some_iff.1 hitem).1

namespace Projection

variable {projection : Projection} {i : Nat} {name : String} {compiled : CompiledExpr}

/-- A projected row holds the value of each column, and null where it fails. -/
theorem get_applyRow (hcolumn : projection.columns[i]? = some (name, compiled)) (row : Row) :
    (projection.applyRow row).get i = valueOrNull (compiled.evaluate row) := by
  simp [applyRow, Row.get, hcolumn]

/-- A projected schema has the type of each column. -/
theorem typeAt_fields (hcolumn : projection.columns[i]? = some (name, compiled)) :
    (Schema.mk projection.fields).typeAt i = compiled.dataType := by
  simp [Schema.typeAt, Schema.fieldAt, fields, hcolumn]

/-- Column `i` of the projection hands on column `j` of its input. -/
def Copies (projection : Projection) (i j : Nat) : Prop :=
  ∃ name compiled, projection.columns[i]? = some (name, compiled) ∧
    ∃ type, compiled.typed = .column j type

/-- A column that is handed on keeps its value on every row. -/
theorem Copies.get_applyRow {j : Nat} (h : projection.Copies i j) (row : Row) :
    (projection.applyRow row).get i = row.get j := by
  obtain ⟨name, compiled, hcolumn, type, htyped⟩ := h
  rw [Projection.get_applyRow hcolumn, CompiledExpr.evaluate, htyped, TypedExpr.evaluate_column]
  rfl

end Projection

variable {schema : Schema} {functions : Registry} {context : String} {items : List SelectItem}
  {compiled : List CompiledExpr} {i : Nat}

/-- An item is compiled to the column at its place. -/
theorem exists_column_of_item
    (h : Expr.compileAll context schema functions (items.map (·.expr)) = .ok compiled)
    {item : SelectItem} (hitem : items[i]? = some item) :
    ∃ c, item.expr.compile schema functions = .ok c ∧
      (Projection.ofItems items compiled).columns[i]? = some (item.name, c) := by
  have hforms := Expr.forall₂_of_compileAll h
  have hi : i < (items.map (·.expr)).length := by
    rw [List.length_map]
    exact (List.getElem?_eq_some_iff.1 hitem).1
  have hi' : i < compiled.length := hforms.length_eq ▸ hi
  refine ⟨compiled[i], ?_, ?_⟩
  · have hexpr : (items.map (·.expr))[i] = item.expr := by
      rw [List.getElem_map, (List.getElem?_eq_some_iff.1 hitem).2]
    exact hexpr ▸ hforms.get hi hi'
  · rw [List.getElem?_zip_eq_some]
    refine ⟨?_, List.getElem?_eq_getElem hi'⟩
    rw [List.getElem?_map, hitem]
    rfl

/-- The columns of a projection are named like the items. -/
theorem names_ofItems
    (h : Expr.compileAll context schema functions (items.map (·.expr)) = .ok compiled) :
    (Schema.mk (Projection.ofItems items compiled).fields).names = items.map (·.name) := by
  have hlength : (items.map (·.name)).length = compiled.length := by
    rw [← (Expr.forall₂_of_compileAll h).length_eq, List.length_map, List.length_map]
  rw [Schema.names, Projection.fields, List.map_map]
  exact List.map_fst_zip (Nat.le_of_eq hlength)

/-- A bare reference resolves to a column, and its item hands that column on with its
type. -/
theorem copies_of_reference
    (h : Expr.compileAll context schema functions (items.map (·.expr)) = .ok compiled)
    {column : ColumnRef} (hreference : referenceAt? items i = some column) :
    ∃ j, schema.resolve column = .ok j ∧
      (Projection.ofItems items compiled).Copies i j ∧
      (Schema.mk (Projection.ofItems items compiled).fields).typeAt i = schema.typeAt j := by
  obtain ⟨item, hitem, hexpr⟩ := referenceAt?_eq_some_iff.1 hreference
  obtain ⟨c, hc, hcolumn⟩ := exists_column_of_item h hitem
  rw [hexpr] at hc
  obtain ⟨j, hj, rfl⟩ := Expr.compile_column_eq_ok_iff.1 hc
  exact ⟨j, hj, ⟨_, _, hcolumn, _, rfl⟩, Projection.typeAt_fields hcolumn⟩

end StreamPlan
