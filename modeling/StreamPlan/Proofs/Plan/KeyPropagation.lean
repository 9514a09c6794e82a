import StreamPlan.Proofs.Plan.Run
import StreamPlan.Proofs.Schema.Reference

/-!
# Keys through projections

A projection looks for its key among bare references with the test that matches keys, and
compiles the same references by resolving them.  The two agree on a reference unless it
spells out the name of another field, so the projected key is the column of the input key
exactly when the item it was found at is not such a reference.  A reference that resolves to the
key always matches it, so a key that is selected is never lost.

Main results:

- `projectKey_eq_some_iff`: where the key of a projection is found.
- `exists_projectKey_le`: a reference that matches the key is found, or one before it.
- `KeyCarried`: an item hands on the column of a key.
- `keyCarried_iff_not_shadowed`: when the projected key is the column of the input key.
- `Planner.keyKept_select`: the key of the node that a projection returns.
-/

namespace StreamPlan

/-- The key of a projection is looked for among the bare references. -/
theorem projectKey_of_indexed {key : KeyField} (hkey : key.isSynthetic = false)
    (items : List SelectItem) :
    projectKey (some key) items =
      (items.findIdx? fun item => item.expr.asColumn?.any key.matchesColumn).map
        (key.relocated key.name) := by
  unfold projectKey
  rw [Option.bind_some, hkey, if_neg Bool.false_ne_true]
  congr 2
  funext item
  cases item.expr.asColumn? <;> rfl

/-- The key of a projection is found at the first bare reference that matches it. -/
theorem projectKey_eq_some_iff {key newKey : KeyField} (hkey : key.isSynthetic = false)
    {items : List SelectItem} :
    projectKey (some key) items = some newKey ↔
      ∃ i, key.relocated key.name i = newKey ∧
        (∃ column, referenceAt? items i = some column ∧ key.matchesColumn column = true) ∧
        ∀ j < i, ∀ column, referenceAt? items j = some column →
          ¬ key.matchesColumn column = true := by
  rw [projectKey_of_indexed hkey, Option.map_eq_some_iff]
  constructor
  · rintro ⟨i, hfound, hnew⟩
    obtain ⟨hi, hmatch, hbefore⟩ := List.findIdx?_eq_some_iff_getElem.1 hfound
    refine ⟨i, hnew, ?_, ?_⟩
    · rw [referenceAt?_of_lt hi]
      exact (Option.any_eq_true _ _).1 hmatch
    · intro j hj column hcolumn hmatches
      rw [referenceAt?_of_lt (Nat.lt_trans hj hi)] at hcolumn
      exact hbefore j hj ((Option.any_eq_true _ _).2 ⟨column, hcolumn, hmatches⟩)
  · rintro ⟨i, hnew, ⟨column, hcolumn, hmatch⟩, hbefore⟩
    have hi := lt_length_of_referenceAt? hcolumn
    rw [referenceAt?_of_lt hi] at hcolumn
    refine ⟨i, List.findIdx?_eq_some_iff_getElem.2 ⟨hi, ?_, ?_⟩, hnew⟩
    · exact (Option.any_eq_true _ _).2 ⟨column, hcolumn, hmatch⟩
    · intro j hj hfound
      obtain ⟨earlier, hearlier, hmatches⟩ := (Option.any_eq_true _ _).1 hfound
      rw [← referenceAt?_of_lt (Nat.lt_trans hj hi)] at hearlier
      exact hbefore j hj earlier hearlier hmatches

/-- Where a bare reference matches the key, the key of a projection is found there or before. -/
theorem exists_projectKey_le {key : KeyField} (hkey : key.isSynthetic = false)
    {items : List SelectItem} {i : Nat} {column : ColumnRef}
    (hreference : referenceAt? items i = some column)
    (hmatch : key.matchesColumn column = true) :
    ∃ j ≤ i, projectKey (some key) items = some (key.relocated key.name j) := by
  have hi := lt_length_of_referenceAt? hreference
  have hmatches : items[i].expr.asColumn?.any key.matchesColumn = true := by
    rw [← referenceAt?_of_lt hi, hreference]
    exact hmatch
  rw [projectKey_of_indexed hkey]
  cases hfound : items.findIdx? fun item => item.expr.asColumn?.any key.matchesColumn with
  | none =>
    have hnone := List.findIdx?_eq_none_iff.1 hfound _ (List.getElem_mem hi)
    rw [hmatches] at hnone
    cases hnone
  | some j =>
    obtain ⟨hj, -, hbefore⟩ := List.findIdx?_eq_some_iff_getElem.1 hfound
    exact ⟨j, Nat.le_of_not_lt fun hlt => hbefore i hlt hmatches, rfl⟩

/-- A projected key has the name of the input key. -/
theorem name_of_projectKey {key newKey : KeyField} {items : List SelectItem}
    (h : projectKey (some key) items = some newKey) : newKey.name = key.name := by
  rcases hkey : key.isSynthetic with _ | _
  · obtain ⟨i, rfl, -, -⟩ := (projectKey_eq_some_iff hkey).1 h
    rfl
  · rw [projectKey_of_synthetic hkey] at h
    exact Option.some.inj h ▸ rfl

/-- Item `i` of a select list is the first bare reference to column `k`, hands that column
on, and has the type of the projected key. -/
structure KeyCarried (schema : Schema) (items : List SelectItem) (projection : Projection)
    (newKey : KeyField) (k i : Nat) : Prop where
  reference : ∃ column, referenceAt? items i = some column ∧ schema.resolve column = .ok k
  first : ∀ j < i, ∀ column, referenceAt? items j = some column → schema.resolve column ≠ .ok k
  value : ∀ row : Row, (projection.applyRow row).get i = row.get k
  type : (Schema.mk projection.fields).typeAt i = newKey.type

variable {schema : Schema} {functions : Registry} {key newKey : KeyField}
  {items : List SelectItem} {compiled : List CompiledExpr} {k i : Nat}

/-- Over distinct names, the projected key is the column of the input key exactly when the
reference it was found at does not spell out the name of another field. -/
theorem keyCarried_iff_not_shadowed (hnames : schema.names.Nodup) (hindex : key.index = some k)
    (hcolumn : schema.fields[k]? = some ⟨key.name, key.type⟩)
    (hcompiled :
      Expr.compileAll "Select" schema functions (items.map (·.expr)) = .ok compiled)
    (hprojected : projectKey (some key) items = some newKey) (hplace : newKey.index = some i) :
    KeyCarried schema items (.ofItems items compiled) newKey k i ↔
      ∀ column, referenceAt? items i = some column → ¬ key.Shadowed schema column := by
  have hkey : key.isSynthetic = false := KeyField.isSynthetic_eq_false_iff.2 ⟨k, hindex⟩
  obtain ⟨place, rfl, ⟨column, hreference, hmatch⟩, hbefore⟩ :=
    (projectKey_eq_some_iff hkey).1 hprojected
  obtain rfl : place = i := Option.some.inj hplace
  obtain ⟨j, hresolve, hcopies, htype⟩ := copies_of_reference hcompiled hreference
  have hagree : j = k ↔ ¬ key.Shadowed schema column :=
    KeyField.resolve_iff_not_shadowed hnames hcolumn hmatch hresolve
  constructor
  · intro hcarried other hother
    obtain ⟨same, hsame, hk⟩ := hcarried.reference
    obtain rfl : column = same := Option.some.inj (hreference.symm.trans hsame)
    obtain rfl : column = other := Option.some.inj (hreference.symm.trans hother)
    rw [hresolve] at hk
    exact hagree.1 (Except.ok.inj hk)
  · intro hshadow
    obtain rfl : j = k := hagree.2 (hshadow column hreference)
    refine ⟨⟨column, hreference, hresolve⟩, ?_, hcopies.get_applyRow, ?_⟩
    · -- An earlier reference to the key would have matched it.
      intro earlier hearlier other hother hk
      exact hbefore earlier hearlier other hother (KeyField.matchesColumn_of_resolve hcolumn hk)
    · rw [htype, Schema.typeAt_of_getElem? hcolumn, KeyField.type_relocated]

/-- A schema of customers, keyed by their number. -/
def customers : Schema := ⟨[⟨"ID", .int32⟩, ⟨"NAME", .utf8⟩]⟩

/-- The name of a customer, then the number by a qualified reference. -/
def nameThenNumber : List SelectItem :=
  [⟨"N", .column ⟨none, "NAME"⟩⟩, ⟨"K", .column ⟨some "C", "ID"⟩⟩]

/-- The number stays the key, at its new place. -/
theorem keyCarried_nameThenNumber :
    ∃ compiled,
      Expr.compileAll "Select" customers Registry.builtins (nameThenNumber.map (·.expr)) =
          .ok compiled ∧
        projectKey (some ⟨"ID", some 0, .int32⟩) nameThenNumber = some ⟨"ID", some 1, .int32⟩ ∧
        KeyCarried customers nameThenNumber (.ofItems nameThenNumber compiled)
          ⟨"ID", some 1, .int32⟩ 0 1 := by
  obtain ⟨compiled, hcompiled⟩ : ∃ compiled,
      Expr.compileAll "Select" customers Registry.builtins (nameThenNumber.map (·.expr)) =
        .ok compiled := ⟨_, rfl⟩
  have hprojected : projectKey (some ⟨"ID", some 0, .int32⟩) nameThenNumber =
      some ⟨"ID", some 1, .int32⟩ := rfl
  refine ⟨compiled, hcompiled, hprojected,
    (keyCarried_iff_not_shadowed (by decide) rfl rfl hcompiled hprojected rfl).2 ?_⟩
  intro column hcolumn
  obtain rfl : ColumnRef.mk (some "C") "ID" = column := Option.some.inj hcolumn
  decide

/-- A schema of a join, keyed by its second column; the first one has the bare name of the
key as its name. -/
def joinedRows : Schema := ⟨[⟨"ID", .int32⟩, ⟨"O.ID", .utf8⟩]⟩

/-- The two columns, each by a reference that spells out its name. -/
def bothColumns : List SelectItem :=
  [⟨"X", .column ⟨none, "ID"⟩⟩, ⟨"Y", .column ⟨some "O", "ID"⟩⟩]

/-- The key of the join moves to a copy of the other column, of another type. -/
theorem not_keyCarried_bothColumns :
    ∃ compiled newKey,
      joinedRows.names.Nodup ∧ joinedRows.fields[1]? = some ⟨"O.ID", .utf8⟩ ∧
        Expr.compileAll "Select" joinedRows Registry.builtins (bothColumns.map (·.expr)) =
          .ok compiled ∧
        projectKey (some ⟨"O.ID", some 1, .utf8⟩) bothColumns = some newKey ∧
        newKey.index = some 0 ∧
        (Schema.mk (Projection.ofItems bothColumns compiled).fields).typeAt 0 = .int32 ∧
        ¬ KeyCarried joinedRows bothColumns (.ofItems bothColumns compiled) newKey 1 0 := by
  refine ⟨_, _, by decide, rfl, rfl, rfl, rfl, rfl, ?_⟩
  intro hcarried
  have htype := hcarried.type
  cases htype

/-! ## Selected keys -/

/-- What a projection makes of the key of its input: a synthetic key is handed on as it is, and a
key that is a column is kept, with its name and type, when a bare reference to that column is
selected, at a place that is not behind any such reference. -/
structure KeyKept (schema : Schema) (items : List SelectItem) (key : KeyField)
    (newKey : Option KeyField) : Prop where
  synthetic : key.isSynthetic = true → newKey = some key
  selected : ∀ k, key.index = some k → schema.fields[k]? = some ⟨key.name, key.type⟩ →
    ∀ i column, referenceAt? items i = some column → schema.resolve column = .ok k →
      ∃ j ≤ i, newKey = some ⟨key.name, some j, key.type⟩

/-- The key that is looked for in a select list is kept. -/
theorem keyKept_projectKey (schema : Schema) (items : List SelectItem) (key : KeyField) :
    KeyKept schema items key (projectKey (some key) items) := by
  refine ⟨fun hkey => projectKey_of_synthetic hkey items, ?_⟩
  intro k hindex hcolumn i column hreference hresolve
  have hkey : key.isSynthetic = false := KeyField.isSynthetic_eq_false_iff.2 ⟨k, hindex⟩
  exact exists_projectKey_le hkey hreference (KeyField.matchesColumn_of_resolve hcolumn hresolve)

namespace Planner

variable {planner : Planner} {input : PlanNode}

/-- A projection returns a node when its items compile and their names are distinct. -/
theorem exists_exec_select_iff {session : Session} :
    (∃ node after, (planner.select input items).exec session = (.ok node, after)) ↔
      (∃ compiled, Expr.compileAll "Select" input.schema planner.functions (items.map (·.expr)) =
        .ok compiled) ∧ (items.map (·.name)).Nodup := by
  constructor
  · rintro ⟨node, after, hexec⟩
    obtain ⟨draft, hdraft, -, -, -⟩ := exec_carryOut_eq_ok_iff.1 hexec
    obtain ⟨compiled, hcompiled, hnames, -⟩ := draftSelect_eq_ok_iff.1 hdraft
    exact ⟨⟨compiled, hcompiled⟩, names_ofItems hcompiled ▸ hnames⟩
  · rintro ⟨⟨compiled, hcompiled⟩, hnames⟩
    have hdraft := draftSelect_eq_ok_iff.2
      ⟨compiled, hcompiled, (names_ofItems hcompiled).symm ▸ hnames, rfl⟩
    refine ⟨_, _, exec_carryOut_of_total planner hdraft ?_ session⟩
    cases hform : input.form <;> simp [Form.mapCall, EngineCall.mayFail]

/-- A select list that compiles under distinct names gives a node, and the node has kept the key of
the input: a synthetic key in any case, and a column when it is selected by a bare reference. -/
theorem keyKept_select {key : KeyField} (hkey : input.keyField = some key)
    (items : List SelectItem) (session : Session) :
    ((∃ node after, (planner.select input items).exec session = (.ok node, after)) ↔
        (∃ compiled, Expr.compileAll "Select" input.schema planner.functions
          (items.map (·.expr)) = .ok compiled) ∧ (items.map (·.name)).Nodup) ∧
      ∀ node after, (planner.select input items).exec session = (.ok node, after) →
        KeyKept input.schema items key node.keyField := by
  refine ⟨exists_exec_select_iff, fun node after hexec => ?_⟩
  obtain ⟨draft, hdraft, -, rfl, -⟩ := exec_carryOut_eq_ok_iff.1 hexec
  obtain ⟨compiled, -, -, rfl⟩ := draftSelect_eq_ok_iff.1 hdraft
  change KeyKept input.schema items key (projectKey input.keyField items)
  rw [hkey]
  exact keyKept_projectKey input.schema items key

/-- Customers joined to their orders, under the number of the order. -/
def joinedOrders : PlanNode :=
  .source
    ⟨⟨0⟩, ⟨[⟨"C.ID", .int32⟩, ⟨"O.ID", .int64⟩, ⟨"O.TOTAL", .float64⟩]⟩,
      some ⟨"O.ID", some 1, .int64⟩, .plain, ⟨.stream, .source⟩⟩
    "orders"

/-- The total, and the number of the order by its name as it stands and by a qualified one. -/
def totalAndNumber : List SelectItem :=
  [⟨"TOTAL", .column ⟨none, "TOTAL"⟩⟩, ⟨"NUMBER", .column ⟨none, "O.ID"⟩⟩,
    ⟨"AGAIN", .column ⟨some "O", "ID"⟩⟩]

/-- The number of the order stays the key, at the first of its two places. -/
theorem keyKept_select_totalAndNumber :
    ∃ node after, (standard.select joinedOrders totalAndNumber).exec .empty = (.ok node, after) ∧
      joinedOrders.schema.resolve ⟨none, "O.ID"⟩ = .ok 1 ∧
      joinedOrders.schema.resolve ⟨some "O", "ID"⟩ = .ok 1 ∧
      ∃ j ≤ 1, node.keyField = some ⟨"O.ID", some j, .int64⟩ := by
  obtain ⟨hreturns, hkept⟩ := @keyKept_select standard joinedOrders ⟨"O.ID", some 1, .int64⟩ rfl
    totalAndNumber .empty
  obtain ⟨node, after, hexec⟩ := hreturns.2 ⟨⟨_, rfl⟩, by decide⟩
  refine ⟨node, after, hexec, rfl, rfl, ?_⟩
  exact (hkept node after hexec).selected 1 rfl rfl 1 ⟨none, "O.ID"⟩ rfl rfl

end Planner

end StreamPlan
