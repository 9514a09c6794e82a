import Mathlib.Data.List.Nodup
import StreamPlan.KeyField
import StreamPlan.Schema.Resolve

/-!
# What a reference means

There are two tests of what a reference means.  Resolving looks for a field with its full
name first and compares bare names only when there is none.  Matching a key compares bare
names at once.  Over distinct names the two differ in one case: the reference spells out
the name of another field.

Main results:

- `Schema.resolve_eq_ok_iff`: the two ways to resolve a reference.
- `Schema.resolve_of_dotFree`: among names without aliases, the bare name decides.
- `Schema.resolve_append`: columns behind a schema that a reference cannot mean.
- `KeyField.matchesColumn_of_resolve`: a reference that resolves to the key matches it.
- `KeyField.resolve_iff_not_shadowed`: when a reference that matches the key resolves to it.
- `KeyField.resolve_iff_meantBy`: when a reference with the bare name of the key does.
-/

namespace StreamPlan

/-! ## Names without an alias -/

namespace ColumnRef

variable {column : ColumnRef}

/-- A full name without a dot has no qualifier. -/
theorem fullName_of_dotFree (hfree : '.' ∉ column.fullName.toList) :
    column.fullName = column.name := by
  obtain ⟨qualifier, name⟩ := column
  cases qualifier with
  | none => rfl
  | some source =>
    -- The full name holds the dot behind the qualifier.
    rw [fullName] at hfree
    exact absurd (by simp) hfree

/-- A reference may mean a field without an alias by its name alone. -/
theorem mayMean_of_dotFree {field : Field} (hfree : '.' ∉ field.name.toList) :
    column.mayMean field = (field.name == column.name) := by
  simp [mayMean, stripAlias, splitAlias_of_dotFree hfree, aliasesConflict]

end ColumnRef

namespace Schema

variable {schema : Schema} {column : ColumnRef} {i : Nat}

/-- The name of a field is one of the names. -/
theorem name_mem_names {field : Field} (hfield : schema.fields[i]? = some field) :
    field.name ∈ schema.names :=
  List.mem_map.2 ⟨field, List.mem_of_getElem? hfield, rfl⟩

/-- The type at a place is that of the field there. -/
theorem typeAt_of_getElem? {field : Field} (hfield : schema.fields[i]? = some field) :
    schema.typeAt i = field.type := by
  rw [typeAt, fieldAt, hfield, Option.getD_some]

/-- Every place of a schema has a field. -/
theorem getElem?_fieldAt (hi : i < schema.width) :
    schema.fields[i]? = some (schema.fieldAt i) := by
  rw [fieldAt, List.getElem?_eq_getElem hi, Option.getD_some]

/-- A name that is there is found. -/
theorem exists_indexOf? {name : String} (h : name ∈ schema.names) :
    ∃ i, schema.indexOf? name = some i := by
  rcases hfound : schema.indexOf? name with _ | i
  · exact absurd h (indexOf?_eq_none_iff.1 hfound)
  · exact ⟨i, rfl⟩

/-- Among distinct names, a field is found by its name. -/
theorem indexOf?_of_distinct (hnames : schema.names.Nodup) {field : Field}
    (hfield : schema.fields[i]? = some field) : schema.indexOf? field.name = some i := by
  obtain ⟨j, hj⟩ := exists_indexOf? (name_mem_names hfield)
  obtain ⟨other, hother, hname⟩ := indexOf?_eq_some hj
  have hi : schema.names[i]? = some field.name := by
    rw [names, List.getElem?_map, hfield]
    rfl
  have hsame : schema.names[j]? = schema.names[i]? := by
    rw [hi, names, List.getElem?_map, hother, Option.map_some, hname]
  have hlt : j < schema.names.length := by
    rw [hi] at hsame
    exact (List.getElem?_eq_some_iff.1 hsame).1
  rw [hj, (List.getElem?_inj hlt hnames).1 hsame]

/-- The candidates of a reference are the fields it may mean. -/
theorem mem_candidates_iff :
    i ∈ schema.candidates column ↔
      ∃ field, schema.fields[i]? = some field ∧ column.mayMean field = true := by
  unfold candidates
  rw [List.mem_filter, List.mem_range]
  constructor
  · rintro ⟨hi, hmean⟩
    have hfield : schema.fields[i]? = some schema.fields[i] := List.getElem?_eq_getElem hi
    rw [hfield] at hmean
    exact ⟨_, hfield, hmean⟩
  · rintro ⟨field, hfield, hmean⟩
    refine ⟨(List.getElem?_eq_some_iff.1 hfield).1, ?_⟩
    rw [hfield]
    exact hmean

/-- A reference resolves by its full name or, when no field bears it, to the only field it
may mean. -/
theorem resolve_eq_ok_iff :
    schema.resolve column = .ok i ↔
      schema.indexOf? column.fullName = some i ∨
        (column.fullName ∉ schema.names ∧ schema.candidates column = [i]) := by
  unfold resolve
  rw [← indexOf?_eq_none_iff]
  rcases schema.indexOf? column.fullName with _ | j
  · rcases schema.candidates column with _ | ⟨first, _ | ⟨second, rest⟩⟩ <;> simp
  · simp

/-- The candidates of a reference depend on the names alone. -/
theorem candidates_eq_filter_names :
    schema.candidates column =
      (List.range schema.names.length).filter fun i =>
        match schema.names[i]? with
        | some name => column.mayMean ⟨name, .null⟩
        | none => false := by
  unfold candidates
  rw [show schema.names.length = schema.width from List.length_map _]
  refine List.filter_congr fun i _ => ?_
  rw [names, List.getElem?_map]
  rcases schema.fields[i]? with _ | field <;> rfl

/-- What a reference resolves to depends on the names alone. -/
theorem resolve_congr {other : Schema} (h : other.names = schema.names) (column : ColumnRef) :
    other.resolve column = schema.resolve column := by
  have hindex : other.indexOf? column.fullName = schema.indexOf? column.fullName := by
    have hnames : ∀ s : Schema, s.indexOf? column.fullName =
        s.names.findIdx? (· == column.fullName) := by
      intro s
      rw [names, List.findIdx?_map]
      rfl
    rw [hnames, hnames, h]
  rw [resolve, resolve, hindex, candidates_eq_filter_names, candidates_eq_filter_names, h]

/-- No name has a dot, so none carries an alias. -/
def DotFree (schema : Schema) : Prop := ∀ name ∈ schema.names, '.' ∉ name.toList

instance (schema : Schema) : Decidable schema.DotFree :=
  inferInstanceAs (Decidable (∀ name ∈ schema.names, _))

/-- The only candidate is the whole list of them. -/
theorem candidates_eq_singleton (h : ∀ j, j ∈ schema.candidates column ↔ j = i) :
    schema.candidates column = [i] := by
  have hnodup : (schema.candidates column).Nodup := List.nodup_range.filter _
  apply List.perm_singleton.1
  rw [List.perm_ext_iff_of_nodup hnodup (List.nodup_singleton i)]
  intro j
  rw [h j, List.mem_singleton]

/-- Among distinct names without dots, a reference resolves by its bare name, whatever its
qualifier. -/
theorem resolve_of_dotFree (hnames : schema.names.Nodup) (hfree : schema.DotFree)
    (hname : schema.indexOf? column.name = some i) : schema.resolve column = .ok i := by
  obtain ⟨field, hfield, hbare⟩ := indexOf?_eq_some hname
  rw [resolve_eq_ok_iff]
  by_cases hfull : '.' ∈ column.fullName.toList
  · right
    refine ⟨fun hmem => hfree _ hmem hfull, candidates_eq_singleton fun j => ?_⟩
    rw [mem_candidates_iff]
    constructor
    · rintro ⟨other, hother, hmean⟩
      rw [ColumnRef.mayMean_of_dotFree (hfree _ (name_mem_names hother)), beq_iff_eq] at hmean
      have hj := indexOf?_of_distinct hnames hother
      rw [hmean, hname] at hj
      exact (Option.some.inj hj).symm
    · rintro rfl
      refine ⟨field, hfield, ?_⟩
      rw [ColumnRef.mayMean_of_dotFree (hfree _ (name_mem_names hfield)), beq_iff_eq]
      exact hbare
  · left
    rw [ColumnRef.fullName_of_dotFree hfull]
    exact hname

/-! ## Columns behind those of a schema -/

variable {added : Schema}

/-- A name that no added column has is found where it was. -/
theorem indexOf?_append {name : String} (h : name ∉ added.names) :
    (schema.append added).indexOf? name = schema.indexOf? name := by
  have hadded := indexOf?_eq_none_iff.2 h
  unfold indexOf? at hadded ⊢
  rw [append, List.findIdx?_append, hadded]
  simp

/-- A name that no column has is found behind them. -/
theorem indexOf?_append_of_notMem {name : String} (h : name ∉ schema.names) :
    (schema.append added).indexOf? name = (added.indexOf? name).map (schema.width + ·) := by
  have hmissing := indexOf?_eq_none_iff.2 h
  unfold indexOf? at hmissing ⊢
  rw [append, List.findIdx?_append, hmissing, Option.none_or]
  simp only [Nat.add_comm, width]

/-- Added columns that a reference cannot mean are no candidates. -/
theorem candidates_append (h : ∀ field ∈ added.fields, column.mayMean field = false) :
    (schema.append added).candidates column = schema.candidates column := by
  have hwidth : (schema.append added).width = schema.width + added.width := List.length_append
  unfold candidates
  rw [hwidth, List.range_add, List.filter_append]
  -- Before the added columns the test reads the same field, and behind them it fails.
  refine (congrArg₂ (· ++ ·) (List.filter_congr ?_) (List.filter_eq_nil_iff.2 ?_)).trans
    (List.append_nil _)
  · intro i hi
    rw [append, List.getElem?_append_left (List.mem_range.1 hi)]
  · intro i hi
    obtain ⟨j, hj, rfl⟩ := List.mem_map.1 hi
    have hj : j < added.fields.length := List.mem_range.1 hj
    rw [append, width, List.getElem?_append_right (Nat.le_add_right _ _), Nat.add_sub_cancel_left,
      List.getElem?_eq_getElem hj]
    simp [h _ (List.getElem_mem hj)]

/-- Added columns without aliases, of which a reference has no name, do not change what it
means. -/
theorem resolve_append (hfree : added.DotFree) (hname : column.name ∉ added.names) :
    (schema.append added).resolve column = schema.resolve column := by
  have hfull : column.fullName ∉ added.names := by
    intro hmem
    rw [ColumnRef.fullName_of_dotFree (hfree _ hmem)] at hmem
    exact hname hmem
  have hbare : ∀ field ∈ added.fields, column.mayMean field = false := by
    intro field hfield
    have hmem : field.name ∈ added.names := List.mem_map_of_mem hfield
    rw [ColumnRef.mayMean_of_dotFree (hfree _ hmem), beq_eq_false_iff_ne]
    rintro heq
    exact hname (heq ▸ hmem)
  rw [resolve, resolve, indexOf?_append hfull, candidates_append hbare]

/-- Columns keep their types before added ones. -/
theorem typeAt_append_left (hi : i < schema.width) :
    (schema.append added).typeAt i = schema.typeAt i := by
  rw [typeAt, typeAt, fieldAt, fieldAt, append, List.getElem?_append_left hi]

/-- Added columns keep theirs behind a schema. -/
theorem typeAt_append_right (j : Nat) :
    (schema.append added).typeAt (schema.width + j) = added.typeAt j := by
  rw [typeAt, typeAt, fieldAt, fieldAt, append, width,
    List.getElem?_append_right (Nat.le_add_right _ _), Nat.add_sub_cancel_left]

end Schema

/-- A name spells the reference whose full name it is. -/
theorem ColumnRef.fullName_ofName (name : String) : (ofName name).fullName = name := by
  rcases hsplit : Text.splitFirst '.' name.toList with _ | ⟨source, rest⟩
  · have hparts : splitAlias name = (none, name) := by
      rw [splitAlias, hsplit]
    rw [ofName, hparts, fullName]
  · have hparts : splitAlias name = (some (String.ofList source), String.ofList rest) := by
      rw [splitAlias, hsplit]
    obtain ⟨hlist, -⟩ := Text.splitFirst_eq_some.1 hsplit
    rw [ofName, hparts]
    change String.ofList source ++ "." ++ String.ofList rest = name
    apply String.toList_inj.1
    simp only [String.toList_append, String.toList_ofList, hlist, List.append_assoc]
    rfl

/-- A reference that some field may mean resolves or is ambiguous. -/
theorem Schema.exists_resolve_or_ambiguous {schema : Schema} {column : ColumnRef} {i : Nat}
    (h : i ∈ schema.candidates column) :
    (∃ j, schema.resolve column = .ok j) ∨
      schema.resolve column = .error (.typing (.ambiguousColumn column.fullName)) := by
  unfold resolve
  cases schema.indexOf? column.fullName with
  | some j => exact Or.inl ⟨j, rfl⟩
  | none =>
    cases hcandidates : schema.candidates column with
    | nil =>
      rw [hcandidates] at h
      cases h
    | cons first rest =>
      cases rest with
      | nil => exact Or.inl ⟨first, rfl⟩
      | cons second others => exact Or.inr rfl

/-- The name of a column resolves to it. -/
theorem Schema.resolve_ofName {schema : Schema} {name : String} {i : Nat}
    (h : schema.indexOf? name = some i) : schema.resolve (ColumnRef.ofName name) = .ok i := by
  apply resolve_of_fullName
  rw [ColumnRef.fullName_ofName]
  exact h

namespace KeyField

variable {schema : Schema} {key : KeyField} {column : ColumnRef} {j k : Nat}

/-- A reference matches a key that has its full name, or that it may mean as a field. -/
theorem matchesColumn_iff_mayMean :
    key.matchesColumn column = true ↔
      key.name = column.fullName ∨ column.mayMean ⟨key.name, key.type⟩ = true := by
  rw [matchesColumn_iff, ColumnRef.mayMean, unaliasedName]
  simp [and_comm]

/-- The reference spells out the name of a field other than the key. -/
def Shadowed (schema : Schema) (key : KeyField) (column : ColumnRef) : Prop :=
  column.fullName ∈ schema.names ∧ column.fullName ≠ key.name

instance (schema : Schema) (key : KeyField) (column : ColumnRef) :
    Decidable (Shadowed schema key column) :=
  inferInstanceAs (Decidable (_ ∧ _))

/-- A reference that resolves to the column of a key matches the key. -/
theorem matchesColumn_of_resolve (hcolumn : schema.fields[k]? = some ⟨key.name, key.type⟩)
    (hresolve : schema.resolve column = .ok k) : key.matchesColumn column = true := by
  rw [matchesColumn_iff_mayMean]
  rcases Schema.resolve_eq_ok_iff.1 hresolve with hfull | ⟨-, honly⟩
  · obtain ⟨field, hfield, hname⟩ := Schema.indexOf?_eq_some hfull
    rw [hcolumn] at hfield
    obtain rfl := Option.some.inj hfield
    exact Or.inl hname
  · have hmem : k ∈ schema.candidates column := honly ▸ List.mem_singleton_self k
    obtain ⟨field, hfield, hmean⟩ := Schema.mem_candidates_iff.1 hmem
    rw [hcolumn] at hfield
    exact Or.inr (Option.some.inj hfield ▸ hmean)

/-- A reference that matches a key and resolves at all resolves to the column of the key
exactly when it is not shadowed. -/
theorem resolve_iff_not_shadowed (hnames : schema.names.Nodup)
    (hcolumn : schema.fields[k]? = some ⟨key.name, key.type⟩)
    (hmatch : key.matchesColumn column = true) (hresolve : schema.resolve column = .ok j) :
    j = k ↔ ¬ Shadowed schema key column := by
  have hkey : schema.indexOf? key.name = some k := Schema.indexOf?_of_distinct hnames hcolumn
  rcases Schema.resolve_eq_ok_iff.1 hresolve with hfull | ⟨hfree, honly⟩
  · obtain ⟨field, hfield, hname⟩ := Schema.indexOf?_eq_some hfull
    have hmem : column.fullName ∈ schema.names := hname ▸ Schema.name_mem_names hfield
    constructor
    · rintro rfl ⟨-, hne⟩
      rw [hcolumn] at hfield
      obtain rfl := Option.some.inj hfield
      exact hne hname.symm
    · intro hshadow
      have heq : column.fullName = key.name := by
        rcases Decidable.em (column.fullName = key.name) with heq | hne
        · exact heq
        · exact absurd ⟨hmem, hne⟩ hshadow
      rw [heq, hkey] at hfull
      exact (Option.some.inj hfull).symm
  · -- No field has the full name, so the key was matched by its bare name.
    have hmean : column.mayMean ⟨key.name, key.type⟩ = true := by
      rcases matchesColumn_iff_mayMean.1 hmatch with hname | hmean
      · exact absurd (hname ▸ Schema.name_mem_names hcolumn) hfree
      · exact hmean
    have hmem : k ∈ schema.candidates column :=
      Schema.mem_candidates_iff.2 ⟨_, hcolumn, hmean⟩
    rw [honly, List.mem_singleton] at hmem
    constructor
    · rintro - ⟨hthere, -⟩
      exact hfree hthere
    · intro _
      exact hmem.symm

/-- What a reference with the bare name of a key needs in order to mean the column of the key. -/
structure MeantBy (schema : Schema) (key : KeyField) (column : ColumnRef) : Prop where
  /-- It does not spell out the name of another field. -/
  notShadowed : ¬ Shadowed schema key column
  /-- Its alias does not contradict that of the key. -/
  agrees : aliasesConflict (splitAlias key.name).1 column.qualifier = false
  /-- No other field could be meant as well. -/
  unambiguous :
    schema.resolve column ≠ .error (.typing (.ambiguousColumn column.fullName))

/-- References of one bare name and one full name have one alias. -/
theorem aliasesConflict_of_fullName {a b : ColumnRef} (hfull : a.fullName = b.fullName)
    (hname : a.name = b.name) : aliasesConflict a.qualifier b.qualifier = false := by
  obtain ⟨_ | source, name⟩ := a
  · rfl
  · obtain ⟨_ | other, name'⟩ := b
    · rfl
    · obtain rfl : name = name' := hname
      have hlists : (source ++ "." ++ name).toList = (other ++ "." ++ name).toList :=
        congrArg String.toList hfull
      simp only [String.toList_append, List.append_cancel_right_eq] at hlists
      simp [aliasesConflict, String.toList_inj.1 hlists]

/-- A reference with the bare name of a key resolves to the column with the name of the key
exactly when it spells out no other field, contradicts no alias and is not ambiguous. -/
theorem resolve_iff_meantBy (hnames : schema.names.Nodup) (hkey : schema.indexOf? key.name = some k)
    (hbare : column.name = key.unaliasedName) :
    schema.resolve column = .ok k ↔ MeantBy schema key column := by
  obtain ⟨field, hfield, hname⟩ := Schema.indexOf?_eq_some hkey
  have hcolumn : schema.fields[k]? = some ⟨key.name, field.type⟩ := by
    rw [hfield, ← hname]
  -- Matching looks at names only, so the key may take the type of the column.
  have hshadowed {j : Nat} : key.matchesColumn column = true → schema.resolve column = .ok j →
      (j = k ↔ ¬ Shadowed schema key column) :=
    @resolve_iff_not_shadowed schema ⟨key.name, key.index, field.type⟩ column j k hnames hcolumn
  constructor
  · intro hresolve
    have hmatch : key.matchesColumn column = true :=
      @matchesColumn_of_resolve schema ⟨key.name, key.index, field.type⟩ column k hcolumn hresolve
    refine ⟨(hshadowed hmatch hresolve).1 rfl, ?_, ?_⟩
    · rcases matchesColumn_iff_mayMean.1 hmatch with hspelled | hmean
      · have hfull : (ColumnRef.ofName key.name).fullName = column.fullName := by
          rw [ColumnRef.fullName_ofName, hspelled]
        exact aliasesConflict_of_fullName hfull hbare.symm
      · simp only [ColumnRef.mayMean, Bool.and_eq_true, Bool.not_eq_true'] at hmean
        exact hmean.2
    · rw [hresolve]
      exact nofun
  · rintro ⟨hshadow, hagrees, hclear⟩
    have hmean (type : DataType) : column.mayMean ⟨key.name, type⟩ = true := by
      simp [ColumnRef.mayMean, hagrees, hbare, unaliasedName]
    have hmem : k ∈ schema.candidates column :=
      Schema.mem_candidates_iff.2 ⟨_, hcolumn, hmean field.type⟩
    rcases Schema.exists_resolve_or_ambiguous hmem with ⟨j, hresolve⟩ | hambiguous
    · have hmatch := matchesColumn_iff_mayMean.2 (Or.inr (hmean key.type))
      obtain rfl := (hshadowed hmatch hresolve).2 hshadow
      exact hresolve
    · exact absurd hambiguous hclear

end KeyField

end StreamPlan
