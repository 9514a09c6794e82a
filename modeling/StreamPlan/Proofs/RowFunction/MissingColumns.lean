import StreamPlan.Proofs.Aggregation.ColumnFold
import StreamPlan.Proofs.RowFunction.WindowColumns
import StreamPlan.RowFunction.GroupKey
import StreamPlan.RowFunction.Rekey

/-!
# Missing columns

A row may have fewer columns than the schema a row function was built for, and a column that is
missing reads as null.  Functions that read columns by their place make the same of such a row
as of the row with nulls added up to the width of the schema.  Functions that put columns behind
those of the row, or overwrite one, do so only where nothing moves and nothing is missing.

Main results:

- `Row.padTo`, `Row.readsLike_padTo`: a row with nulls at its end reads like the row.
- `Expr.evaluate_eq_of_get_eq`: expressions read columns by their place.
- `Projection.applyRow_eq`, `GroupKey.keyFor_eq_of_readsLike`, `Aggregator.fold_eq`: so do
  projections, composite keys and aggregations.
- `Predicate.test_padTo`: filters whose bounds do not move into the columns they read.
- `Rekey.updateRow_padTo`, `Rekey.readsLike_updateRow_padTo_iff`: overwriting a column.
- `Joiner.join_padTo_eq_iff`, `Joiner.readsLike_join_padTo_left_iff`: joined rows.
-/

namespace StreamPlan

/-! ## Rows -/

namespace Row

/-- The row with nulls at its end, up to a width. -/
def padTo (row : Row) (width : Nat) : Row :=
  ⟨row.columns ++ List.replicate (width - row.width) .null⟩

/-- Every column has one value in both rows; a missing one is null. -/
def ReadsLike (a b : Row) : Prop := ∀ i, a.get i = b.get i

variable {row : Row} {width : Nat}

/-- A padded row has at least the width it is padded to. -/
@[simp] theorem width_padTo (row : Row) (width : Nat) :
    (row.padTo width).width = max row.width width := by
  simp only [padTo, Row.width, List.length_append, List.length_replicate]
  omega

/-- Columns put behind others are read from the end of those on. -/
theorem get_append (xs ys : List Value) (i : Nat) :
    (Row.mk (xs ++ ys)).get i =
      if i < xs.length then (Row.mk xs).get i else (Row.mk ys).get (i - xs.length) := by
  by_cases hi : i < xs.length
  · rw [if_pos hi, get, get, List.getElem?_append_left hi]
  · rw [if_neg hi, get, get, List.getElem?_append_right (Nat.le_of_not_lt hi)]

/-- Nulls at the end of a row are what is read there without them. -/
@[simp] theorem get_padTo (row : Row) (width i : Nat) : (row.padTo width).get i = row.get i := by
  rw [padTo, get_append]
  split
  · rfl
  · rename_i hi
    rw [get_of_width_le (Nat.le_of_not_lt hi)]
    exact get_nulls _ _

/-- A row reads like the row with nulls at its end. -/
theorem readsLike_padTo (row : Row) (width : Nat) : row.ReadsLike (row.padTo width) :=
  fun i => (get_padTo row width i).symm

/-- A row that is wide enough is not padded. -/
theorem padTo_of_le (h : width ≤ row.width) : row.padTo width = row := by
  simp [padTo, Nat.sub_eq_zero_of_le h]

/-- The columns of a row are the first ones of the padded row. -/
theorem take_padTo (row : Row) (width : Nat) :
    (row.padTo width).columns.take row.width = row.columns :=
  List.take_left

/-- Overwriting a column leaves the columns of a row that has no such column. -/
theorem columns_set (row : Row) (i : Nat) (v : Value) :
    (row.set i v).columns = row.columns.set i v := by
  unfold set set?
  split
  · rfl
  · rename_i hi
    exact (List.set_eq_of_length_le (Nat.le_of_not_lt hi)).symm

end Row

/-! ## Functions that read columns by their place -/

variable {schema : Schema} {functions : Registry} {row₁ row₂ : Row}

/-- An expression has one value on two rows that hold one value in each column it refers to. -/
theorem Expr.evaluate_eq_of_get_eq {e : Expr} {compiled : CompiledExpr}
    (h : e.compile schema functions = .ok compiled)
    (hget : ∀ c i, e.Names c → schema.resolve c = .ok i → row₁.get i = row₂.get i) :
    compiled.evaluate row₁ = compiled.evaluate row₂ := by
  have halike : e.AlikeOn functions schema row₁ schema row₂ := by
    refine alikeOn_of_alikeIn fun c hc => ?_
    unfold ColumnRef.AlikeIn
    cases hresolve : schema.resolve c with
    | error cause => exact .error cause
    | ok i => exact .ok ⟨rfl, hget c i hc hresolve⟩
  rw [AlikeOn, h] at halike
  cases halike with
  | ok related => exact related.2

/-- So it has on two rows that read alike. -/
theorem Expr.evaluate_eq {e : Expr} {compiled : CompiledExpr}
    (h : e.compile schema functions = .ok compiled) (hrows : row₁.ReadsLike row₂) :
    compiled.evaluate row₁ = compiled.evaluate row₂ :=
  evaluate_eq_of_get_eq h fun _ i _ _ => hrows i

/-- So have all expressions of a list. -/
theorem Expr.evaluate_eq_of_mem {context : String} {es : List Expr} {compiled : List CompiledExpr}
    (h : compileAll context schema functions es = .ok compiled) (hrows : row₁.ReadsLike row₂)
    {c : CompiledExpr} (hc : c ∈ compiled) : c.evaluate row₁ = c.evaluate row₂ := by
  obtain ⟨e, -, he⟩ := exists_mem_of_forall₂ (forall₂_of_compileAll h) hc
  exact evaluate_eq he hrows

/-- A projection makes one row of two rows that read alike. -/
theorem Projection.applyRow_eq {context : String} {items : List SelectItem}
    {compiled : List CompiledExpr}
    (h : Expr.compileAll context schema functions (items.map (·.expr)) = .ok compiled)
    (hrows : row₁.ReadsLike row₂) :
    (Projection.ofItems items compiled).applyRow row₁ =
      (Projection.ofItems items compiled).applyRow row₂ := by
  refine congrArg Row.mk (List.map_congr_left fun column hcolumn => ?_)
  rw [Expr.evaluate_eq_of_mem h hrows (List.of_mem_zip hcolumn).2]

/-- Two rows that read alike have one composite key. -/
theorem GroupKey.keyFor_eq_of_readsLike {context : String} {parts : List Expr}
    {compiled : List CompiledExpr}
    (h : Expr.compileAll context schema functions parts = .ok compiled)
    (hrows : row₁.ReadsLike row₂) :
    (GroupKey.mk compiled).keyFor row₁ = (GroupKey.mk compiled).keyFor row₂ := by
  have hparts : (GroupKey.mk compiled).parts row₁ = (GroupKey.mk compiled).parts row₂ := by
    refine List.map_congr_left fun c hc => ?_
    rw [part, part, Expr.evaluate_eq_of_mem h hrows hc]
  rw [keyFor_eq, keyFor_eq, hparts]

/-- Two rows that read alike bring one input to a column of an aggregation. -/
theorem AggregateColumn.input?_eq {item : AggregateItem} {column : AggregateColumn}
    (h : compile schema functions item = .ok column) (hrows : row₁.ReadsLike row₂) :
    column.input? row₁ = column.input? row₂ := by
  cases hcall : item.call.argument? with
  | none => rw [input?_of_no_argument (argument_eq_none_of_compile h hcall)]
  | some e =>
    obtain ⟨argument, hargument, hcolumn, -⟩ := argument_of_compile h hcall
    rw [input?_of_argument hcolumn, CompiledExpr.known?, CompiledExpr.known?,
      Expr.evaluate_eq hargument hrows]

namespace Aggregator

variable {items : List AggregateItem} {compiled : Aggregator}

/-- So the columns from a position on are folded alike. -/
theorem foldColumns_eq {columns : List AggregateColumn}
    (h : ∀ column ∈ columns, column.input? row₁ = column.input? row₂) (aggregate : Row)
    (slot : Nat) :
    foldColumns row₁ aggregate slot columns = foldColumns row₂ aggregate slot columns := by
  induction columns generalizing aggregate slot with
  | nil => rfl
  | cons column rest ih =>
    rw [foldColumns, foldColumns, AggregateColumn.step, AggregateColumn.step,
      h column List.mem_cons_self]
    exact ih (fun other hother => h other (List.mem_cons_of_mem _ hother)) _ _

/-- An aggregation makes one aggregate row of two rows that read alike. -/
theorem fold_eq (h : compile schema functions items = .ok compiled) (hrows : row₁.ReadsLike row₂)
    (index : Option Nat) (type : DataType) (key : Value) (aggregate : Row) :
    (compiled.withKey index type).fold key row₁ aggregate =
      (compiled.withKey index type).fold key row₂ aggregate := by
  have hkey : (compiled.withKey index type).keyValue key row₁ =
      (compiled.withKey index type).keyValue key row₂ := by
    unfold keyValue
    cases index with
    | none => rfl
    | some i => simp only [withKey, hrows i]
  rw [fold, fold, hkey]
  refine foldColumns_eq (fun column hcolumn => ?_) _ _
  obtain ⟨item, -, hitem⟩ := exists_mem_of_forall₂ (columns_of_compile h) hcolumn
  exact AggregateColumn.input?_eq hitem hrows

end Aggregator

/-! ## Filters -/

namespace Predicate

variable {config : Config} {windowed : Bool} {key : RecordKey} {row : Row}

/-- The bounds of the window, which stand behind the row, do not come into columns of the schema
that the expression reads, nor do they leave the columns in which it reads them: there are none,
they are null, or all references are to columns of the row or to columns that are still missing
behind the bounds. -/
def BoundsAside (config : Config) (windowed : Bool) (schema : Schema) (e : Expr) (key : RecordKey)
    (row : Row) : Prop :=
  boundsFor config windowed schema = [] ∨ key.window? = none ∨
    ∀ c i, e.Names c → (schemaFor config windowed schema).resolve c = .ok i →
      i < row.width ∨
        (row.width + (boundsFor config windowed schema).length ≤ i ∧ i < schema.width)

/-- Without window columns a filter reads the row as it is. -/
theorem rowFor_of_noBounds (h : boundsFor config windowed schema = []) (key : RecordKey)
    (row : Row) : rowFor config windowed schema key row = row := by
  simp [rowFor, h]

/-- A key without a window puts nulls behind the row. -/
theorem rowFor_of_noWindow (h : key.window? = none) (row : Row) :
    rowFor config windowed schema key row =
      row.padTo (row.width + (boundsFor config windowed schema).length) := by
  have hnull : ∀ bound : WindowBound, bound.value key = .null := by
    intro bound
    simp [WindowBound.value, h]
  simp [rowFor, Row.padTo, hnull]

/-- Where the bounds stand neither behind the row nor behind its padding, both read alike. -/
theorem get_rowFor_padTo {i : Nat}
    (hi : i < row.width ∨
      (row.width + (boundsFor config windowed schema).length ≤ i ∧ i < schema.width)) :
    (rowFor config windowed schema key row).get i =
      (rowFor config windowed schema key (row.padTo schema.width)).get i := by
  rcases hi with hrow | ⟨hbehind, hschema⟩
  · have hpadded : i < (row.padTo schema.width).width := by
      rw [Row.width_padTo]
      omega
    rw [get_rowFor hrow, get_rowFor hpadded, Row.get_padTo]
  · have hpadded : i < (row.padTo schema.width).width := by
      rw [Row.width_padTo]
      omega
    have hshort : (rowFor config windowed schema key row).width ≤ i := by
      simpa [rowFor, Row.width] using hbehind
    rw [get_rowFor hpadded, Row.get_padTo, Row.get_of_width_le hshort,
      Row.get_of_width_le (by omega)]

/-- A filter decides alike on a row and on the row with nulls up to the width of the schema, if
the bounds do not get in the way. -/
theorem test_padTo {e : Expr} {predicate : Predicate}
    (h : compile config functions windowed schema e = .ok predicate)
    (haside : BoundsAside config windowed schema e key row) :
    predicate.test key (some row) = predicate.test key (some (row.padTo schema.width)) := by
  apply test_eq_of_evaluate_eq
  rw [extend_of_compile h, extend_of_compile h]
  obtain ⟨t, ht, -, rfl⟩ := compile_eq_ok_iff.1 h
  have hcompiled := Expr.compile_eq_ok_iff.2 ⟨t, ht, rfl⟩
  rcases haside with hbounds | hwindow | hreferences
  · rw [rowFor_of_noBounds hbounds, rowFor_of_noBounds hbounds]
    exact Expr.evaluate_eq hcompiled (row.readsLike_padTo _)
  · rw [rowFor_of_noWindow hwindow, rowFor_of_noWindow hwindow]
    refine Expr.evaluate_eq hcompiled fun i => ?_
    rw [Row.get_padTo, Row.get_padTo, Row.get_padTo]
  · exact Expr.evaluate_eq_of_get_eq hcompiled fun c i hc hi =>
      get_rowFor_padTo (hreferences c i hc hi)

end Predicate

/-! ## Rekeys -/

namespace Rekey

variable {rekey : Rekey}

/-- Of two rows that read alike a rekey keeps both or none. -/
theorem accepts_eq (rekey : Rekey) (hrows : row₁.ReadsLike row₂) :
    rekey.accepts (some row₁) = rekey.accepts (some row₂) := by
  simp only [accepts, hrows rekey.keyIndex]

/-- Two rows that read alike have one new key. -/
theorem keyFor_eq (rekey : Rekey) (hrows : row₁.ReadsLike row₂) :
    rekey.keyFor row₁ = rekey.keyFor row₂ := by
  rw [keyFor, keyFor, hrows rekey.keyIndex]

/-- The columns that a row has after a rekey are the first ones that the padded row has. -/
theorem updateRow_padTo (rekey : Rekey) (row : Row) (width : Nat) :
    (rekey.updateRow row).columns =
      (rekey.updateRow (row.padTo width)).columns.take row.width := by
  have hkey := rekey.keyFor_eq (row.readsLike_padTo width)
  unfold updateRow
  cases rekey.rowKeyIndex with
  | none => exact (Row.take_padTo row width).symm
  | some i =>
    dsimp only
    rw [Row.columns_set, Row.columns_set, List.take_set, Row.take_padTo, hkey]

/-- A row and the padded row read alike after a rekey exactly when the column that is overwritten
is there. -/
theorem readsLike_updateRow_padTo_iff (rekey : Rekey) (row : Row) {width : Nat}
    (hwidth : ∀ i, rekey.rowKeyIndex = some i → i < width) :
    (rekey.updateRow row).ReadsLike (rekey.updateRow (row.padTo width)) ↔
      ∀ i, rekey.rowKeyIndex = some i → i < row.width := by
  have hkey := rekey.keyFor_eq (row.readsLike_padTo width)
  unfold updateRow
  cases hindex : rekey.rowKeyIndex with
  | none => simpa using row.readsLike_padTo width
  | some i =>
    have hpadded : i < (row.padTo width).width := by
      rw [Row.width_padTo]
      exact Nat.lt_of_lt_of_le (hwidth i hindex) (Nat.le_max_right _ _)
    constructor
    · intro hreads j hj
      obtain rfl := Option.some.inj hj
      by_contra hmissing
      have hread := hreads i
      dsimp only at hread
      -- The padded row holds the key where the short row still reads as null.
      rw [Row.get_set, Row.get_set, if_neg fun h => hmissing h.2, if_pos ⟨rfl, hpadded⟩,
        Row.get_of_width_le (Nat.le_of_not_lt hmissing)] at hread
      cases hread
    · intro hthere j
      have hi := hthere i rfl
      dsimp only
      rw [Row.get_set, Row.get_set, ← hkey, Row.get_padTo]
      simp only [hi, hpadded, and_true]

end Rekey

/-! ## Joins -/

namespace Joiner

variable {joiner : Joiner} {l r : Row}

/-- Nulls at the end of the right row stand at the end of the joined row. -/
theorem join_padTo_right (joiner : Joiner) (left : Option Row) (r : Row) (width : Nat) :
    joiner.join left (some (r.padTo width)) =
      (joiner.join left (some r)).padTo ((side joiner.leftWidth left).length + width) := by
  have hwidth : (joiner.join left (some r)).width =
      (side joiner.leftWidth left).length + r.width := List.length_append
  conv_rhs => rw [Row.padTo, hwidth, Nat.add_sub_add_left]
  rw [join, join, List.append_assoc]
  rfl

/-- A joined row holds the columns of the left row and then those of the right side. -/
theorem get_join_left (joiner : Joiner) (l : Row) (right : Option Row) (i : Nat) :
    (joiner.join (some l) right).get i =
      if i < l.width then l.get i
      else (Row.mk (side joiner.rightWidth right)).get (i - l.width) :=
  Row.get_append _ _ _

/-- Nulls between the sides of a joined row are not seen exactly when there are none or when the
right side reads as null everywhere. -/
theorem readsLike_join_padTo_left_iff (joiner : Joiner) (l : Row) (right : Option Row)
    (width : Nat) :
    (joiner.join (some l) right).ReadsLike (joiner.join (some (l.padTo width)) right) ↔
      width ≤ l.width ∨ ∀ i, (Row.mk (side joiner.rightWidth right)).get i = .null := by
  constructor
  · intro hreads
    by_cases hwide : width ≤ l.width
    · exact Or.inl hwide
    · right
      -- The right side is read as if it stood further behind, so it begins with nulls, and then
      -- goes on with what it began with.
      intro i
      induction i using Nat.strongRecOn with
      | _ i ih =>
        have hread := hreads (l.width + i)
        rw [get_join_left, get_join_left, if_neg (by omega), Nat.add_sub_cancel_left] at hread
        rw [hread, Row.width_padTo]
        split
        · rw [Row.get_padTo, Row.get_of_width_le (Nat.le_add_right _ _)]
        · exact ih _ (by omega)
  · rintro (hwide | hnull) i
    · rw [Row.padTo_of_le hwide]
    · rw [get_join_left, get_join_left, hnull, hnull, Row.get_padTo, Row.width_padTo]
      by_cases hi : i < l.width
      · rw [if_pos hi, if_pos (by omega)]
      · rw [if_neg hi, Row.get_of_width_le (Nat.le_of_not_lt hi), ite_self]

/-- A padded side is at least as wide as it is padded to. -/
theorem length_side_padTo (width : Nat) (row : Option Row) :
    (side width (row.map (·.padTo width))).length = max (side width row).length width := by
  cases row with
  | none => simp [side]
  | some row => exact Row.width_padTo row width

/-- A joined row is that of the padded sides exactly when neither side is short. -/
theorem join_padTo_eq_iff (joiner : Joiner) (left right : Option Row) :
    joiner.join left right = joiner.join (left.map (·.padTo joiner.leftWidth))
        (right.map (·.padTo joiner.rightWidth)) ↔
      (∀ l, left = some l → joiner.leftWidth ≤ l.width) ∧
        ∀ r, right = some r → joiner.rightWidth ≤ r.width := by
  constructor
  · intro h
    have hlength := congrArg Row.width h
    rw [join, join, Row.width, Row.width, List.length_append, List.length_append,
      length_side_padTo, length_side_padTo] at hlength
    constructor
    · rintro l rfl
      have hl : (side joiner.leftWidth (some l)).length = l.width := rfl
      omega
    · rintro r rfl
      have hr : (side joiner.rightWidth (some r)).length = r.width := rfl
      omega
  · rintro ⟨hleft, hright⟩
    have hl : left.map (·.padTo joiner.leftWidth) = left := by
      cases left with
      | none => rfl
      | some l => rw [Option.map_some, Row.padTo_of_le (hleft l rfl)]
    have hr : right.map (·.padTo joiner.rightWidth) = right := by
      cases right with
      | none => rfl
      | some r => rw [Option.map_some, Row.padTo_of_le (hright r rfl)]
    rw [hl, hr]

end Joiner

end StreamPlan
