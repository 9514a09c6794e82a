import Mathlib.Data.List.Forall2
import StreamPlan.Aggregation
import StreamPlan.Proofs.Expr.TypeSoundness

/-!
# Aggregate rows

An aggregate row is the value of the key and behind it one value per column, and a fold
changes each of them on its own.  What a column may hold before a row it may hold after it:
null or a value of its type, and in a count no null.

Main results:

- `Aggregator.fold_cons`: a fold changes the columns one by one, and the key apart from them.
- `AggregateColumn.holds_initial`, `AggregateColumn.holds_step`: one column.
- `Aggregator.holds_initial`, `Aggregator.holds_fold`: one fold.
- `Aggregator.holds_foldAll`: any number of folds.
-/

namespace StreamPlan

/-! ## Folds, column by column -/

namespace Aggregator

/-- The columns from a position on are folded one by one; those before it stay. -/
theorem foldColumns_append (row : Row) {columns : List AggregateColumn} {values : List Value}
    (h : values.length = columns.length) (before : List Value) :
    foldColumns row ⟨before ++ values⟩ before.length columns =
      ⟨before ++ List.zipWith (fun column v => column.step row v) columns values⟩ := by
  induction columns generalizing before values with
  | nil =>
    obtain rfl := List.eq_nil_of_length_eq_zero h
    rfl
  | cons column rest ih =>
    obtain ⟨v, others, rfl⟩ := List.exists_cons_of_length_eq_add_one h
    have hget : (Row.mk (before ++ v :: others)).get before.length = v := by
      simp [Row.get]
    have hset : (Row.mk (before ++ v :: others)).set before.length (column.step row v) =
        ⟨(before ++ [column.step row v]) ++ others⟩ := by
      have hlt : before.length < (Row.mk (before ++ v :: others)).width := by simp [Row.width]
      simp [Row.set, Row.set?, hlt]
    rw [foldColumns, hget, hset]
    have hrest := ih (by simpa using h) (before ++ [column.step row v])
    rw [List.length_append, List.length_singleton] at hrest
    rw [hrest]
    simp

/-- A fold changes the key and, apart from it, the columns one by one. -/
theorem fold_cons (aggregator : Aggregator) (key : Value) (row : Row) (slot : Value)
    {values : List Value} (h : values.length = aggregator.columns.length) :
    aggregator.fold key row ⟨slot :: values⟩ =
      ⟨aggregator.keyValue key row ::
        List.zipWith (fun column v => column.step row v) aggregator.columns values⟩ := by
  have hset : (Row.mk (slot :: values)).set 0 (aggregator.keyValue key row) =
      ⟨[aggregator.keyValue key row] ++ values⟩ := by
    simp [Row.set, Row.set?, Row.width]
  rw [fold, hset]
  exact foldColumns_append row h [aggregator.keyValue key row]

end Aggregator

/-! ## Values of columns -/

/-- A sum is of the type of sums it is asked for. -/
theorem addTo?_fits {type : DataType} (htype : type = .int64 ∨ type = .float64)
    {current input v : Value} (h : addTo? type current input = some v) : v.Fits type := by
  unfold addTo? at h
  split at h
  · rename_i hfloat
    obtain ⟨x, -, rfl⟩ := Option.map_eq_some_iff.1 h
    exact Or.inr hfloat.symm
  · rename_i hfloat
    obtain ⟨n, -, rfl⟩ := Option.map_eq_some_iff.1 h
    exact Or.inr (htype.resolve_right hfloat).symm

/-- The better of two values of a type is of that type. -/
theorem pick_fits {type : DataType} (wanted : Ordering) {current input : Value}
    (hcurrent : current.Fits type) (hinput : input.Fits type) :
    (pick wanted current input).Fits type := by
  unfold pick
  split
  · exact hinput
  · exact hcurrent

namespace AggregateColumn

/-- The column takes the greatest or the least of its inputs. -/
def IsExtreme (column : AggregateColumn) : Prop :=
  ∃ e, column.call = .min e ∨ column.call = .max e

/-- The column has the type its call computes on rows of a schema. -/
structure WellTyped (column : AggregateColumn) (schema : Schema) : Prop where
  count : column.call.isCount = true → column.type = .int64
  sum : ∀ e, column.call = .sum e → column.type = .int64 ∨ column.type = .float64
  extreme : column.IsExtreme → ∀ row : Row, row.Fits schema → ∀ v, column.input? row = some v →
    v.Fits column.type

/-- What the column may hold: null or a value of its type, and in a count no null. -/
def Holds (column : AggregateColumn) (v : Value) : Prop :=
  v.Fits column.type ∧ (column.call.isCount = true → v ≠ .null)

variable {schema : Schema} {functions : Registry}

/-- The input of a row is the value of the argument. -/
theorem evaluate_of_input? {column : AggregateColumn} {e : CompiledExpr}
    (hargument : column.argument = some e) {row : Row} {v : Value}
    (h : column.input? row = some v) : e.evaluate row = .ok v := by
  unfold input? at h
  rw [hargument] at h
  dsimp only at h
  split at h
  · rename_i w hw
    split at h
    · cases h
    · rw [hw, Option.some.inj h]
  · cases h

/-- Sums are over integers, in 64 bits, or over doubles. -/
theorem typeOf_sum {e : Expr} {argument type : DataType} (h : typeOf (.sum e) argument = .ok type) :
    ((argument = .int32 ∨ argument = .int64) ∧ type = .int64) ∨
      (argument = .float64 ∧ type = .float64) := by
  unfold typeOf at h
  dsimp only at h
  split at h
  · rename_i hintegers
    exact Or.inl ⟨hintegers, (Except.ok.inj h).symm⟩
  · split at h
    · rename_i hdoubles
      exact Or.inr ⟨hdoubles, (Except.ok.inj h).symm⟩
    · cases h

/-- The types of the calls. -/
theorem typeOf_eq_ok {call : AggregateCall} {argument type : DataType}
    (h : typeOf call argument = .ok type) :
    (call.isCount = true → type = .int64) ∧
      (∀ e, call = .sum e → type = .int64 ∨ type = .float64) ∧
      ((∃ e, call = .min e ∨ call = .max e) → type = argument) := by
  cases call with
  | countAll | count e =>
    obtain rfl := Except.ok.inj h
    simp [AggregateCall.isCount]
  | sum e =>
    refine ⟨nofun, fun _ _ => ?_, by simp⟩
    rcases typeOf_sum h with ⟨-, htype⟩ | ⟨-, htype⟩
    · exact Or.inl htype
    · exact Or.inr htype
  | min e | max e =>
    obtain rfl := Except.ok.inj h
    simp [AggregateCall.isCount]

/-- A compiled column has the call and the name of its item. -/
theorem item_of_compile {item : AggregateItem} {column : AggregateColumn}
    (h : compile schema functions item = .ok column) :
    column.call = item.call ∧ column.name = item.name := by
  unfold compile at h
  split at h
  · obtain rfl := Except.ok.inj h
    exact ⟨rfl, rfl⟩
  · obtain ⟨_, -, h⟩ := bind_eq_ok_iff.1 h
    obtain ⟨_, -, h⟩ := bind_eq_ok_iff.1 h
    obtain rfl := Except.ok.inj h
    exact ⟨rfl, rfl⟩

/-- Over functions that keep their types, a compiled column is typed for its schema. -/
theorem wellTyped_of_compile (hfunctions : functions.KeepsTypes) {item : AggregateItem}
    {column : AggregateColumn} (h : compile schema functions item = .ok column) :
    column.WellTyped schema := by
  unfold compile at h
  split at h
  · rename_i hargument
    obtain rfl := Except.ok.inj h
    obtain ⟨name, call⟩ := item
    cases call with
    | countAll => exact ⟨fun _ => rfl, nofun, by rintro ⟨e, h | h⟩ <;> cases h⟩
    | count | sum | min | max => cases hargument
  · rename_i e _
    obtain ⟨argument, hargument, h⟩ := bind_eq_ok_iff.1 h
    rw [mapError_eq_ok_iff] at hargument
    obtain ⟨type, htype, h⟩ := bind_eq_ok_iff.1 h
    obtain rfl := Except.ok.inj h
    obtain ⟨hcount, hsum, hextreme⟩ := typeOf_eq_ok htype
    refine ⟨hcount, hsum, fun hcall row hrow v hv => ?_⟩
    obtain ⟨t, ht, rfl⟩ := Expr.compile_eq_ok_iff.1 hargument
    have hvalue := evaluate_of_input? rfl hv
    rw [hextreme hcall]
    exact Expr.sound_typed hfunctions e t ht row hrow v hvalue

/-- The columns of a list of items. -/
theorem forall₂_of_compileAll {items : List AggregateItem} {columns : List AggregateColumn}
    (h : compileAll schema functions items = .ok columns) :
    List.Forall₂ (fun item column => compile schema functions item = .ok column) items
      columns := by
  induction items generalizing columns with
  | nil => exact Except.ok.inj h ▸ List.Forall₂.nil
  | cons item rest ih =>
    rw [compileAll] at h
    obtain ⟨first, hfirst, h⟩ := bind_eq_ok_iff.1 h
    obtain ⟨others, hothers, heq⟩ := bind_eq_ok_iff.1 h
    exact Except.ok.inj heq ▸ List.Forall₂.cons hfirst (ih hothers)

variable {column : AggregateColumn}

/-- Before any row a column holds zero or null. -/
theorem holds_initial (h : column.WellTyped schema) : column.Holds column.initial := by
  unfold initial
  split
  · rename_i hcount
    exact ⟨Or.inr (h.count hcount).symm, fun _ => nofun⟩
  · rename_i hcount
    exact ⟨Value.null_fits _, fun hcount' => absurd hcount' hcount⟩

/-- What a column makes of an input it may hold again. -/
theorem holds_combine (h : column.WellTyped schema) {row : Row} (hrow : row.Fits schema)
    {current input : Value} (hcurrent : column.Holds current)
    (hinput : column.input? row = some input) : column.Holds (column.combine current input) := by
  unfold combine
  split
  case h_1 hcall =>
    exact ⟨Or.inr (h.count (by simp [hcall, AggregateCall.isCount])).symm, fun _ => nofun⟩
  case h_2 e hcall =>
    exact ⟨Or.inr (h.count (by simp [hcall, AggregateCall.isCount])).symm, fun _ => nofun⟩
  case h_3 e hcall =>
    refine ⟨?_, by simp [hcall, AggregateCall.isCount]⟩
    rcases hsum : addTo? column.type current input with _ | v
    · exact hcurrent.1
    · exact addTo?_fits (h.sum e hcall) hsum
  case h_4 e hcall =>
    exact ⟨pick_fits .lt hcurrent.1 (h.extreme ⟨e, Or.inl hcall⟩ row hrow input hinput),
      by simp [hcall, AggregateCall.isCount]⟩
  case h_5 e hcall =>
    exact ⟨pick_fits .gt hcurrent.1 (h.extreme ⟨e, Or.inr hcall⟩ row hrow input hinput),
      by simp [hcall, AggregateCall.isCount]⟩

/-- After a row a column holds what it may hold, whether the row brings an input or not. -/
theorem holds_step (h : column.WellTyped schema) {row : Row} (hrow : row.Fits schema)
    {current : Value} (hcurrent : column.Holds current) :
    column.Holds (column.step row current) := by
  rcases hinput : column.input? row with _ | input
  · rw [step_of_no_input hinput]
    exact hcurrent
  · rw [step, hinput]
    exact holds_combine h hrow hcurrent hinput

end AggregateColumn

/-! ## Whole aggregate rows -/

namespace Aggregator

/-- An aggregate row: a key that fits its type, and behind it what the columns may hold. -/
def Holds (aggregator : Aggregator) (keyType : DataType) (aggregate : Row) : Prop :=
  ∃ slot values, aggregate = ⟨slot :: values⟩ ∧ slot.Fits keyType ∧
    List.Forall₂ AggregateColumn.Holds aggregator.columns values

/-- The aggregate row after a list of grouped rows, each with the key of its group. -/
def foldAll (aggregator : Aggregator) (aggregate : Row) (grouped : List (Value × Row)) : Row :=
  grouped.foldl (fun aggregate pair => aggregator.fold pair.1 pair.2 aggregate) aggregate

variable {aggregator : Aggregator} {schema : Schema}

/-- The key of an aggregate row fits the type of the key column. -/
theorem keyValue_fits {column : AggregateKey} (hkey : aggregator.key = some column) (key : Value)
    (row : Row) : (aggregator.keyValue key row).Fits column.type := by
  unfold keyValue
  rw [hkey]
  dsimp only
  -- The column of the row or the cast, where there is a column, and the cast where there is none.
  split
  · split
    · rename_i htype
      exact Or.inr htype
    · split
      · rename_i hcast
        exact Value.fits_of_cast hcast
      · exact Value.null_fits _
  · split
    · rename_i hcast
      exact Value.fits_of_cast hcast
    · exact Value.null_fits _

/-- The columns of an aggregation have the names of its items. -/
theorem names_of_compile {functions : Registry} {items : List AggregateItem}
    (h : compile schema functions items = .ok aggregator) :
    aggregator.fields.map (·.name) = items.map (·.name) := by
  obtain ⟨columns, hcolumns, rfl⟩ := map_eq_ok_iff.1 h
  rw [fields, List.map_map, ← List.forall₂_eq_eq_eq, List.forall₂_map_left_iff,
    List.forall₂_map_right_iff]
  exact (AggregateColumn.forall₂_of_compileAll hcolumns).flip.imp fun column item hitem =>
    (AggregateColumn.item_of_compile hitem).2

/-- The aggregate row of a group without rows. -/
theorem holds_initial (hcolumns : ∀ column ∈ aggregator.columns, column.WellTyped schema)
    (keyType : DataType) : aggregator.Holds keyType aggregator.initial := by
  refine ⟨.null, _, rfl, Value.null_fits keyType, ?_⟩
  rw [List.forall₂_map_right_iff, List.forall₂_same]
  exact fun column hcolumn => AggregateColumn.holds_initial (hcolumns column hcolumn)

/-- One more row of the group. -/
theorem holds_fold {column : AggregateKey} (hkey : aggregator.key = some column)
    (hcolumns : ∀ column ∈ aggregator.columns, column.WellTyped schema) {aggregate : Row}
    (h : aggregator.Holds column.type aggregate) (key : Value) {row : Row}
    (hrow : row.Fits schema) : aggregator.Holds column.type (aggregator.fold key row aggregate) := by
  obtain ⟨slot, values, rfl, -, hvalues⟩ := h
  rw [fold_cons aggregator key row slot hvalues.length_eq.symm]
  refine ⟨_, _, rfl, keyValue_fits hkey key row, ?_⟩
  generalize aggregator.columns = columns at hcolumns hvalues
  induction hvalues with
  | nil => exact .nil
  | @cons first v _ _ hfirst _ ih =>
    rw [List.zipWith_cons_cons]
    exact .cons (AggregateColumn.holds_step (hcolumns first List.mem_cons_self) hrow hfirst)
      (ih fun other hother => hcolumns other (List.mem_cons_of_mem _ hother))

/-- Any number of rows of the group, from any aggregate row on. -/
theorem holds_foldAll {column : AggregateKey} (hkey : aggregator.key = some column)
    (hcolumns : ∀ column ∈ aggregator.columns, column.WellTyped schema)
    {grouped : List (Value × Row)} (hrows : ∀ pair ∈ grouped, pair.2.Fits schema)
    {aggregate : Row} (h : aggregator.Holds column.type aggregate) :
    aggregator.Holds column.type (aggregator.foldAll aggregate grouped) := by
  induction grouped generalizing aggregate with
  | nil => exact h
  | cons pair rest ih =>
    have hfirst := holds_fold hkey hcolumns h pair.1 (hrows pair List.mem_cons_self)
    exact ih (fun other hother => hrows other (List.mem_cons_of_mem _ hother)) hfirst

end Aggregator

end StreamPlan
