import StreamPlan.Plan.Pipeline
import StreamPlan.Proofs.Aggregation.AggregateRows

/-!
# Aggregations in step

Two aggregations with the same columns may find the same groups in different ways and show
their keys in different types.  As long as they see the same rows in the same groups, their
aggregate rows are the same behind the key column, after any records.

Main results:

- `Pipeline.InStep`: one record, seen by two aggregations.
- `Pipeline.foldRecord_mapFirst`: one fold of both.
- `Pipeline.foldInputs_mapFirst`: all folds of both.
- `Pipeline.exists_record_of_updated`: where the key column of an aggregate row comes from.
-/

namespace StreamPlan

/-! ## First columns -/

/-- The row with an image of its first value in place of it. -/
def Row.mapFirst (g : Value → Value) (row : Row) : Row := row.set 0 (g (row.get 0))

/-- The first value of a row with values is replaced. -/
@[simp] theorem Row.mapFirst_cons (g : Value → Value) (v : Value) (vs : List Value) :
    (Row.mk (v :: vs)).mapFirst g = ⟨g v :: vs⟩ := by
  simp [mapFirst, set, set?, width, get]

/-- Replacing the first value by itself changes nothing. -/
@[simp] theorem Row.mapFirst_id : Row.mapFirst id = id := by
  funext row
  obtain ⟨_ | ⟨v, vs⟩⟩ := row
  · rfl
  · exact mapFirst_cons id v vs

namespace Pipeline

/-! ## Stores -/

/-- The store with every aggregate row changed. -/
def Store.mapRows (f : Row → Row) (store : Store) : Store :=
  store.map fun entry => (entry.1, f entry.2)

/-- What is found in a changed store. -/
theorem Store.find?_mapRows (f : Row → Row) (text : String) (store : Store) :
    Store.find? text (store.mapRows f) = (Store.find? text store).map f := by
  induction store with
  | nil => rfl
  | cons entry rest ih =>
    change (if entry.1 = text then some (f entry.2) else Store.find? text (Store.mapRows f rest)) =
      (if entry.1 = text then some entry.2 else Store.find? text rest).map f
    split
    · rfl
    · exact ih

/-- What is put into a changed store. -/
theorem Store.insert_mapRows (f : Row → Row) (text : String) (row : Row) (store : Store) :
    Store.insert text (f row) (store.mapRows f) = (Store.insert text row store).mapRows f := by
  induction store with
  | nil => rfl
  | cons entry rest ih =>
    change (if entry.1 = text then (text, f row) :: Store.mapRows f rest
        else (entry.1, f entry.2) :: Store.insert text (f row) (Store.mapRows f rest)) =
      Store.mapRows f (if entry.1 = text then (text, row) :: rest
        else entry :: Store.insert text row rest)
    split
    · rfl
    · rw [ih]
      rfl

/-- Every aggregate row of the store has the width. -/
def Store.HasWidth (store : Store) (width : Nat) : Prop :=
  ∀ text row, Store.find? text store = some row → row.width = width

/-- The empty store has every width. -/
theorem Store.hasWidth_nil (width : Nat) : Store.HasWidth [] width := nofun

/-- What is found after a row was put in. -/
theorem Store.find?_insert (text other : String) (row : Row) (store : Store) :
    Store.find? other (Store.insert text row store) =
      if text = other then some row else Store.find? other store := by
  induction store with
  | nil => rfl
  | cons entry rest ih =>
    change Store.find? other (if entry.1 = text then (text, row) :: rest
        else entry :: Store.insert text row rest) =
      if text = other then some row
      else if entry.1 = other then some entry.2 else Store.find? other rest
    by_cases hentry : entry.1 = text
    · rw [if_pos hentry, hentry]
      by_cases htext : text = other <;> simp [Store.find?, htext]
    · rw [if_neg hentry]
      change (if entry.1 = other then some entry.2
        else Store.find? other (Store.insert text row rest)) = _
      rw [ih]
      by_cases htext : text = other
      · subst htext
        simp [hentry]
      · simp [htext]

/-- A row of the width may be put into a store of that width. -/
theorem Store.HasWidth.insert {store : Store} {width : Nat} (h : store.HasWidth width)
    (text : String) {row : Row} (hrow : row.width = width) :
    (Store.insert text row store).HasWidth width := by
  intro other found hfound
  rw [Store.find?_insert] at hfound
  split at hfound
  · exact Option.some.inj hfound ▸ hrow
  · exact h other found hfound

/-! ## One record -/

/-- A fold step with every row changed. -/
def FoldStep.mapRow (f : Row → Row) : FoldStep → FoldStep
  | skipped => skipped
  | updated key next out =>
    updated key (f next) (out.map fun record => ⟨record.key, record.row.map f⟩)

/-- A fold step with every row kept is the same step. -/
@[simp] theorem FoldStep.mapRow_id : FoldStep.mapRow id = id := by
  funext step
  cases step <;> simp [mapRow]

/-- The pipeline that starts with the aggregation of a grouped input. -/
def Grouping.pipeline (grouping : Grouping) : Pipeline :=
  .aggregate grouping.input grouping.groupKey grouping.aggregator

/-- Two aggregations are in step on two records: both show the same row in the same group, and
the key column of the right one is an image of that of the left one. -/
def InStep (g : Value → Value) (left right : Grouping) (l r : Record) : Prop :=
  ∃ row, l.row = some row ∧ r.row = some row ∧
    groupKeyOf right.groupKey r row = groupKeyOf left.groupKey l row ∧
    right.aggregator.keyValue (groupKeyOf left.groupKey l row).value row =
      g (left.aggregator.keyValue (groupKeyOf left.groupKey l row).value row)

variable {g : Value → Value} {left right : Grouping}

/-- The width of the aggregate rows of a grouping. -/
def Grouping.width (grouping : Grouping) : Nat := grouping.aggregator.columns.length + 1

/-- The aggregate row of a group so far. -/
def Grouping.current (grouping : Grouping) (store : Store) (text : String) : Row :=
  (Store.find? text store).getD grouping.aggregator.initial

/-- The aggregate row of a group is a key and a value for every column. -/
theorem Grouping.exists_current {grouping : Grouping} {store : Store}
    (hwidth : store.HasWidth grouping.width) (text : String) :
    ∃ slot values, grouping.current store text = ⟨slot :: values⟩ ∧
      values.length = grouping.aggregator.columns.length := by
  have hcurrent : (grouping.current store text).width = grouping.width := by
    unfold current
    rcases hfound : Store.find? text store with _ | row
    · exact Aggregator.width_initial _
    · exact hwidth text row hfound
  generalize grouping.current store text = current at hcurrent
  obtain ⟨_ | ⟨slot, values⟩⟩ := current
  · exact nomatch hcurrent
  · exact ⟨slot, values, rfl, Nat.succ.inj hcurrent⟩

/-- In a changed store the aggregate row of a group differs in the key only. -/
theorem Grouping.exists_current_mapRows (hcolumns : right.aggregator.columns =
      left.aggregator.columns) {store : Store} {text : String} {slot : Value}
    {values : List Value} (hcurrent : left.current store text = ⟨slot :: values⟩) :
    ∃ other, right.current (store.mapRows (Row.mapFirst g)) text = ⟨other :: values⟩ := by
  unfold current at hcurrent ⊢
  rw [Store.find?_mapRows]
  rcases hfound : Store.find? text store with _ | row <;> rw [hfound] at hcurrent
  · rw [Option.getD_none] at hcurrent
    refine ⟨slot, ?_⟩
    rw [Option.map_none, Option.getD_none, ← hcurrent, Aggregator.initial, Aggregator.initial,
      hcolumns]
  · rw [Option.getD_some] at hcurrent
    subst hcurrent
    exact ⟨g slot, Row.mapFirst_cons g slot values⟩

/-- What a record with a row makes of a store. -/
theorem foldRecord_of_row {grouping : Grouping} {store : Store} {record : Record} {row : Row}
    (hrow : record.row = some row) {key : RecordKey}
    (hkey : groupKeyOf grouping.groupKey record row = key) :
    foldRecord grouping.pipeline grouping store record =
      (Store.insert key.text
          (grouping.aggregator.fold key.value row (grouping.current store key.text)) store,
        .updated key (grouping.aggregator.fold key.value row (grouping.current store key.text))
          [⟨key, some
            (grouping.aggregator.fold key.value row (grouping.current store key.text))⟩]) := by
  subst hkey
  unfold foldRecord
  rw [hrow]
  rfl

/-- A fold keeps the width of a store. -/
theorem hasWidth_foldRecord {grouping : Grouping} {store : Store}
    (hwidth : store.HasWidth grouping.width) (record : Record) :
    (foldRecord grouping.pipeline grouping store record).1.HasWidth grouping.width := by
  rcases hrow : record.row with _ | row
  · unfold foldRecord
    rw [hrow]
    exact hwidth
  · rw [foldRecord_of_row hrow rfl]
    refine hwidth.insert _ ?_
    obtain ⟨slot, values, hcurrent, hlength⟩ := Grouping.exists_current hwidth
      (groupKeyOf grouping.groupKey record row).text
    rw [Aggregator.width_fold, hcurrent]
    exact congrArg (· + 1) hlength

/-- Two aggregations that are in step on a record fold it into rows that differ in the key
only. -/
theorem foldRecord_mapFirst (hcolumns : right.aggregator.columns = left.aggregator.columns)
    {store : Store} (hwidth : store.HasWidth left.width) {l r : Record}
    (h : InStep g left right l r) :
    foldRecord right.pipeline right (store.mapRows (Row.mapFirst g)) r =
      ((foldRecord left.pipeline left store l).1.mapRows (Row.mapFirst g),
        (foldRecord left.pipeline left store l).2.mapRow (Row.mapFirst g)) := by
  obtain ⟨row, hl, hr, hkey, hfirst⟩ := h
  rw [foldRecord_of_row hl rfl, foldRecord_of_row hr hkey]
  generalize groupKeyOf left.groupKey l row = key at hfirst
  obtain ⟨slot, values, hcurrent, hlength⟩ := Grouping.exists_current hwidth key.text
  obtain ⟨other, hother⟩ := Grouping.exists_current_mapRows (g := g) hcolumns hcurrent
  have hnext : right.aggregator.fold key.value row ⟨other :: values⟩ =
      (left.aggregator.fold key.value row ⟨slot :: values⟩).mapFirst g := by
    rw [Aggregator.fold_cons _ _ _ _ (hcolumns ▸ hlength), Aggregator.fold_cons _ _ _ _ hlength,
      Row.mapFirst_cons, hfirst, hcolumns]
  rw [hother, hcurrent, hnext, Store.insert_mapRows]
  rfl

/-! ## Many records -/

/-- Two aggregations that are in step on grouped records fold them into rows that differ in
the key only. -/
theorem foldGrouped_mapFirst (hcolumns : right.aggregator.columns = left.aggregator.columns)
    {ls rs : List Record} (h : List.Forall₂ (InStep g left right) ls rs) {store : Store}
    (hwidth : store.HasWidth left.width) :
    foldGrouped right.pipeline right (store.mapRows (Row.mapFirst g)) rs =
        ((foldGrouped left.pipeline left store ls).1.mapRows (Row.mapFirst g),
          (foldGrouped left.pipeline left store ls).2.map (FoldStep.mapRow (Row.mapFirst g))) ∧
      (foldGrouped left.pipeline left store ls).1.HasWidth left.width := by
  induction h generalizing store with
  | nil => exact ⟨rfl, hwidth⟩
  | @cons l r _ _ hfirst _ ih =>
    obtain ⟨hrest, hwidth'⟩ := ih (hasWidth_foldRecord hwidth l)
    unfold foldGrouped
    rw [foldRecord_mapFirst hcolumns hwidth hfirst]
    dsimp only
    rw [hrest]
    exact ⟨rfl, hwidth'⟩

/-- Two aggregations whose grouped inputs are in step on every record fold all records into
rows that differ in the key only. -/
theorem foldInputs_mapFirst (hcolumns : right.aggregator.columns = left.aggregator.columns)
    {records : List Record}
    (h : ∀ record ∈ records, List.Forall₂ (InStep g left right) (left.input.run [record])
      (right.input.run [record])) {store : Store} (hwidth : store.HasWidth left.width) :
    foldInputs right.pipeline right (store.mapRows (Row.mapFirst g)) records =
      (foldInputs left.pipeline left store records).map
        (List.map (FoldStep.mapRow (Row.mapFirst g))) := by
  induction records generalizing store with
  | nil => rfl
  | cons record rest ih =>
    obtain ⟨hfirst, hwidth'⟩ :=
      foldGrouped_mapFirst hcolumns (h record List.mem_cons_self) hwidth
    have hrest := ih (fun other hother => h other (List.mem_cons_of_mem _ hother)) hwidth'
    unfold foldInputs
    rw [hfirst]
    dsimp only
    rw [hrest]
    rfl

/-! ## Key columns -/

variable {grouping : Grouping} {key : RecordKey} {next : Row} {out : List Record}

/-- The aggregate row of a fold shows the key of its group. -/
theorem exists_row_of_foldRecord {store : Store} (hwidth : store.HasWidth grouping.width)
    {record : Record}
    (h : (foldRecord grouping.pipeline grouping store record).2 = .updated key next out) :
    ∃ row, record.row = some row ∧ key = groupKeyOf grouping.groupKey record row ∧
      next.get 0 = grouping.aggregator.keyValue key.value row := by
  rcases hrow : record.row with _ | row
  · unfold foldRecord at h
    rw [hrow] at h
    cases h
  · rw [foldRecord_of_row hrow rfl] at h
    obtain ⟨rfl, rfl, -⟩ := FoldStep.updated.inj h
    refine ⟨row, rfl, rfl, ?_⟩
    obtain ⟨slot, values, hcurrent, hlength⟩ := Grouping.exists_current hwidth
      (groupKeyOf grouping.groupKey record row).text
    rw [hcurrent, Aggregator.fold_cons _ _ _ _ hlength]
    rfl

/-- Every aggregate row of grouped records shows the key of one of them. -/
theorem exists_record_of_foldGrouped {records : List Record} {store : Store}
    (hwidth : store.HasWidth grouping.width) :
    (foldGrouped grouping.pipeline grouping store records).1.HasWidth grouping.width ∧
      (.updated key next out ∈ (foldGrouped grouping.pipeline grouping store records).2 →
        ∃ record ∈ records, ∃ row, record.row = some row ∧
          key = groupKeyOf grouping.groupKey record row ∧
          next.get 0 = grouping.aggregator.keyValue key.value row) := by
  induction records generalizing store with
  | nil => exact ⟨hwidth, nofun⟩
  | cons record rest ih =>
    obtain ⟨hwidth', hrest⟩ := ih (hasWidth_foldRecord hwidth record)
    unfold foldGrouped
    refine ⟨hwidth', fun h => ?_⟩
    rcases List.mem_cons.1 h with h | h
    · exact ⟨record, List.mem_cons_self, exists_row_of_foldRecord hwidth h.symm⟩
    · obtain ⟨other, hother, hrow⟩ := hrest h
      exact ⟨other, List.mem_cons_of_mem _ hother, hrow⟩

/-- Every aggregate row shows the key of a record that was grouped. -/
theorem exists_record_of_updated {records : List Record} {store : Store}
    (hwidth : store.HasWidth grouping.width) {steps : List FoldStep}
    (hsteps : steps ∈ foldInputs grouping.pipeline grouping store records)
    (h : .updated key next out ∈ steps) :
    ∃ input ∈ records, ∃ record ∈ grouping.input.run [input], ∃ row, record.row = some row ∧
      key = groupKeyOf grouping.groupKey record row ∧
      next.get 0 = grouping.aggregator.keyValue key.value row := by
  induction records generalizing store with
  | nil => cases hsteps
  | cons input rest ih =>
    obtain ⟨hwidth', hfirst⟩ := exists_record_of_foldGrouped hwidth
    unfold foldInputs at hsteps
    rcases List.mem_cons.1 hsteps with rfl | hsteps
    · obtain ⟨record, hrecord, hrow⟩ := hfirst h
      exact ⟨input, List.mem_cons_self, record, hrecord, hrow⟩
    · obtain ⟨other, hother, hrecord⟩ := ih hwidth' hsteps
      exact ⟨other, List.mem_cons_of_mem _ hother, hrecord⟩

end Pipeline

end StreamPlan
