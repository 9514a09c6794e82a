import StreamPlan.Proofs.Aggregation.AggregateRows

/-!
# Columns of aggregate rows

What stands in a column of an aggregate row depends on its call and on the rows of the group,
and of these on nothing but the values of its argument that are not null, in their order.

Main results:

- `Aggregator.get_foldAll_initial`: the column of an aggregate row.
- `AggregateColumn.result_eq_foldl_known`: it is made of the known values of the argument.
- `CompiledExpr.dataType_of_mem_known`: these are of the type of the argument.
- `AggregateColumn.argument_of_compile`: the argument of a compiled column.
-/

namespace StreamPlan

/-! ## Known values -/

namespace CompiledExpr

/-- The value of an expression on a row, unless it is null or a failure. -/
def known? (e : CompiledExpr) (row : Row) : Option Value :=
  match e.evaluate row with
  | .ok v => if v.isNull then none else some v
  | .error _ => none

/-- The values of an expression on rows that are not null, in the order of the rows. -/
def known (e : CompiledExpr) (rows : List Row) : List Value := rows.filterMap e.known?

variable {e : CompiledExpr} {rows : List Row} {v : Value}

/-- A known value is one that is not null. -/
theorem known?_eq_some_iff {row : Row} :
    e.known? row = some v ↔ e.evaluate row = .ok v ∧ v ≠ .null := by
  unfold known?
  cases hvalue : e.evaluate row with
  | error => simp
  | ok w =>
    by_cases hnull : w = .null
    · subst hnull
      simp [Value.isNull, eq_comm]
    · simp only [Value.isNull_eq_false hnull, Bool.false_eq_true, if_false, Option.some.injEq,
        Except.ok.injEq]
      exact ⟨fun h => ⟨h, h ▸ hnull⟩, And.left⟩

/-- Known values are values on a row, and none is null. -/
theorem evaluate_of_mem_known (h : v ∈ e.known rows) :
    ∃ row ∈ rows, e.evaluate row = .ok v ∧ v ≠ .null := by
  obtain ⟨row, hrow, hv⟩ := List.mem_filterMap.1 h
  exact ⟨row, hrow, known?_eq_some_iff.1 hv⟩

/-- No known value is null. -/
theorem ne_null_of_mem_known (h : v ∈ e.known rows) : v ≠ .null := by
  obtain ⟨_, -, -, hnull⟩ := evaluate_of_mem_known h
  exact hnull

/-- The known values of rows in another order are the same in another order. -/
theorem known_perm {others : List Row} (h : rows.Perm others) :
    (e.known rows).Perm (e.known others) := h.filterMap e.known?

/-- Over functions that keep their types, known values are of the type of the expression. -/
theorem dataType_of_mem_known {schema : Schema} {functions : Registry} {source : Expr}
    (hfunctions : functions.KeepsTypes) (he : source.compile schema functions = .ok e)
    (hrows : ∀ row ∈ rows, row.Fits schema) (h : v ∈ e.known rows) : v.dataType = e.dataType := by
  obtain ⟨row, hrow, hvalue, hnull⟩ := evaluate_of_mem_known h
  obtain ⟨t, ht, rfl⟩ := Expr.compile_eq_ok_iff.1 he
  have hfits := Expr.sound_typed hfunctions source t ht row (hrows row hrow) v hvalue
  exact hfits.resolve_left hnull

end CompiledExpr

/-! ## One column -/

namespace AggregateColumn

variable {schema : Schema} {functions : Registry} {column : AggregateColumn}

/-- What a column holds after the rows of a group. -/
def result (column : AggregateColumn) (rows : List Row) : Value :=
  rows.foldl (fun v row => column.step row v) column.initial

/-- The inputs of a column are the known values of its argument. -/
theorem input?_of_argument {e : CompiledExpr} (h : column.argument = some e) :
    column.input? = e.known? := by
  funext row
  unfold input?
  rw [h]
  rfl

/-- Without an argument every row is an input. -/
theorem input?_of_no_argument (h : column.argument = none) :
    column.input? = fun _ => some (.boolean true) := by
  funext row
  unfold input?
  rw [h]

/-- What a column holds is made of its inputs. -/
theorem result_eq_foldl_input? (column : AggregateColumn) (rows : List Row) :
    column.result rows = (rows.filterMap column.input?).foldl column.combine column.initial := by
  rw [result, List.foldl_filterMap]
  unfold step
  congr 1
  funext v row
  cases column.input? row <;> rfl

/-- What a column with an argument holds is made of the known values of the argument. -/
theorem result_eq_foldl_known {e : CompiledExpr} (h : column.argument = some e)
    (rows : List Row) :
    column.result rows = (e.known rows).foldl column.combine column.initial := by
  rw [result_eq_foldl_input?, input?_of_argument h, CompiledExpr.known]

/-- A column without an argument is compiled without one. -/
theorem argument_eq_none_of_compile {item : AggregateItem}
    (h : compile schema functions item = .ok column) (hcall : item.call.argument? = none) :
    column.argument = none := by
  rw [compile, hcall] at h
  obtain rfl := Except.ok.inj h
  rfl

/-- A column with an argument is compiled with it, and has the type of the call over it. -/
theorem argument_of_compile {item : AggregateItem} {e : Expr}
    (h : compile schema functions item = .ok column) (hcall : item.call.argument? = some e) :
    ∃ argument, e.compile schema functions = .ok argument ∧ column.argument = some argument ∧
      typeOf item.call argument.dataType = .ok column.type := by
  rw [compile, hcall] at h
  obtain ⟨argument, hargument, h⟩ := bind_eq_ok_iff.1 h
  obtain ⟨type, htype, h⟩ := bind_eq_ok_iff.1 h
  obtain rfl := Except.ok.inj h
  exact ⟨argument, mapError_eq_ok_iff.1 hargument, rfl, htype⟩

/-- The name of an item is only the name of its column. -/
theorem compile_rename {item : AggregateItem} (h : compile schema functions item = .ok column)
    (name : String) : compile schema functions { item with name } = .ok { column with name } := by
  unfold compile at h ⊢
  dsimp only
  cases hcall : item.call.argument? with
  | none =>
    rw [hcall] at h
    obtain rfl := Except.ok.inj h
    rfl
  | some e =>
    rw [hcall] at h
    obtain ⟨argument, hargument, h⟩ := bind_eq_ok_iff.1 h
    obtain ⟨type, htype, h⟩ := bind_eq_ok_iff.1 h
    obtain rfl := Except.ok.inj h
    exact bind_eq_ok_iff.2 ⟨argument, hargument, bind_eq_ok_iff.2 ⟨type, htype, rfl⟩⟩

/-- Items with the same call have columns that hold the same. -/
theorem result_of_same_call {item other : AggregateItem} {column' : AggregateColumn}
    (h : compile schema functions item = .ok column)
    (h' : compile schema functions other = .ok column') (hcall : other.call = item.call) :
    column'.result = column.result := by
  have hother : other = { item with name := other.name } := by rw [← hcall]
  rw [hother, compile_rename h] at h'
  obtain rfl := Except.ok.inj h'
  rfl

/-- Items that compile one by one compile as a list. -/
theorem exists_compileAll {items : List AggregateItem}
    (h : ∀ item ∈ items, ∃ column, compile schema functions item = .ok column) :
    ∃ columns, compileAll schema functions items = .ok columns := by
  induction items with
  | nil => exact ⟨[], rfl⟩
  | cons item rest ih =>
    obtain ⟨first, hfirst⟩ := h item List.mem_cons_self
    obtain ⟨others, hothers⟩ := ih fun other hother => h other (List.mem_cons_of_mem _ hother)
    exact ⟨first :: others,
      bind_eq_ok_iff.2 ⟨first, hfirst, bind_eq_ok_iff.2 ⟨others, hothers, rfl⟩⟩⟩

end AggregateColumn

/-! ## All columns -/

namespace Aggregator

variable {schema : Schema} {functions : Registry} {items : List AggregateItem}
  {compiled : Aggregator}

/-- There is a column per item, and in its place. -/
theorem columns_of_compile (h : compile schema functions items = .ok compiled) :
    List.Forall₂ (fun item column => AggregateColumn.compile schema functions item = .ok column)
      items compiled.columns := by
  obtain ⟨columns, hcolumns, rfl⟩ := map_eq_ok_iff.1 h
  exact AggregateColumn.forall₂_of_compileAll hcolumns

/-- The column of an item. -/
theorem exists_column_of_compile (h : compile schema functions items = .ok compiled) {i : Nat}
    {item : AggregateItem} (hitem : items[i]? = some item) :
    ∃ column, compiled.columns[i]? = some column ∧
      AggregateColumn.compile schema functions item = .ok column := by
  have hcolumns := columns_of_compile h
  obtain ⟨hi, rfl⟩ := List.getElem?_eq_some_iff.1 hitem
  have hi' : i < compiled.columns.length := hcolumns.length_eq ▸ hi
  exact ⟨compiled.columns[i], List.getElem?_eq_getElem hi', hcolumns.get hi hi'⟩

/-- Items of a list that compiles compile without the rest. -/
theorem exists_compile_of_subset (h : compile schema functions items = .ok compiled)
    {others : List AggregateItem} (hsubset : others ⊆ items) :
    ∃ other, compile schema functions others = .ok other := by
  have hothers : ∀ item ∈ others, ∃ column,
      AggregateColumn.compile schema functions item = .ok column := by
    intro item hitem
    obtain ⟨i, hi⟩ := List.mem_iff_getElem?.1 (hsubset hitem)
    obtain ⟨column, -, hcolumn⟩ := exists_column_of_compile h hi
    exact ⟨column, hcolumn⟩
  obtain ⟨columns, hcolumns⟩ := AggregateColumn.exists_compileAll hothers
  exact ⟨⟨columns, none⟩, map_eq_ok_iff.2 ⟨columns, hcolumns, rfl⟩⟩

/-- Folding rows changes every column on its own. -/
theorem foldAll_columns (aggregator : Aggregator) (grouped : List (Value × Row)) (slot : Value)
    (values : AggregateColumn → Value) :
    ∃ slot', aggregator.foldAll ⟨slot :: aggregator.columns.map values⟩ grouped =
      ⟨slot' :: aggregator.columns.map fun column =>
        (grouped.map (·.2)).foldl (fun v row => column.step row v) (values column)⟩ := by
  induction grouped generalizing slot values with
  | nil => exact ⟨slot, rfl⟩
  | cons pair rest ih =>
    have hfold := fold_cons aggregator pair.1 pair.2 slot
      (show (aggregator.columns.map values).length = aggregator.columns.length by simp)
    rw [List.zipWith_map_right, List.zipWith_self] at hfold
    rw [foldAll, List.foldl_cons, hfold]
    exact ih _ _

/-- An aggregate row: the slot of the key, and behind it what the columns hold. -/
theorem foldAll_initial (aggregator : Aggregator) (grouped : List (Value × Row)) :
    ∃ slot, aggregator.foldAll aggregator.initial grouped =
      ⟨slot :: aggregator.columns.map fun column => column.result (grouped.map (·.2))⟩ :=
  foldAll_columns aggregator grouped .null AggregateColumn.initial

/-- What a column holds after the rows of a group. -/
theorem get_foldAll_initial (aggregator : Aggregator) (grouped : List (Value × Row)) {i : Nat}
    {column : AggregateColumn} (h : aggregator.columns[i]? = some column) :
    (aggregator.foldAll aggregator.initial grouped).get (i + 1) =
      column.result (grouped.map (·.2)) := by
  obtain ⟨slot, hall⟩ := foldAll_initial aggregator grouped
  rw [hall]
  simp [Row.get, h]

end Aggregator

end StreamPlan
