import StreamPlan.Proofs.Expr.NamedColumns
import StreamPlan.Proofs.Outcome
import StreamPlan.Proofs.Schema.Reference

/-!
# The order of columns

A reference looks for the first field with its full name, and then for a field it may mean
among all of them.  Over distinct names neither search depends on the order of the fields: the
first has one field to find, and the second counts.  So a reference resolves to the same field
in every order, or fails with the same error.

Main results:

- `ColumnRef.mayMean_iff_namesBare`: what it is to have the bare name of a reference.
- `Schema.exists_resolve_iff`: the references that resolve.
- `Schema.resolve_of_perm`: schemas with the same fields.
- `Schema.resolve_reorder`: the place of the field in a reordered schema.
- `Schema.resolve_reorder_rotated`: the columns of a join.
-/

namespace StreamPlan

/-! ## Bare names -/

namespace ColumnRef

variable {column : ColumnRef}

/-- A name is the bare name of a reference, alone or behind an alias that is not another one
than the reference has. -/
def NamesBare (column : ColumnRef) (name : String) : Prop :=
  ('.' ∉ name.toList ∧ name = column.name) ∨
    ∃ source, '.' ∉ source.toList ∧ name = source ++ "." ++ column.name ∧
      ∀ qualifier, column.qualifier = some qualifier → qualifier = source

/-- Aliases do not contradict each other when one is missing or they are the same. -/
theorem aliasesConflict_eq_false_iff {source : String} {qualifier : Option String} :
    aliasesConflict (some source) qualifier = false ↔
      ∀ other, qualifier = some other → other = source := by
  cases qualifier with
  | none => simp [aliasesConflict]
  | some other => simp [aliasesConflict, @eq_comm _ other]

/-- A reference may mean the fields that have its bare name. -/
theorem mayMean_iff_namesBare {field : Field} :
    column.mayMean field = true ↔ column.NamesBare field.name := by
  constructor
  · intro hmean
    rcases hsplit : Text.splitFirst '.' field.name.toList with _ | ⟨source, rest⟩
    · have hfree := Text.splitFirst_eq_none_iff.1 hsplit
      rw [mayMean_of_dotFree hfree, beq_iff_eq] at hmean
      exact Or.inl ⟨hfree, hmean⟩
    · obtain ⟨hlist, hfree⟩ := Text.splitFirst_eq_some.1 hsplit
      rw [mayMean, stripAlias, splitAlias, hsplit, Bool.and_eq_true, beq_iff_eq,
        Bool.not_eq_true', aliasesConflict_eq_false_iff] at hmean
      obtain ⟨hname, hagree⟩ := hmean
      refine Or.inr ⟨String.ofList source, by rwa [String.toList_ofList], ?_, hagree⟩
      apply String.toList_inj.1
      rw [hlist, ← hname]
      simp
  · rintro (⟨hfree, hname⟩ | ⟨source, hfree, hname, hagree⟩)
    · rw [mayMean_of_dotFree hfree, beq_iff_eq]
      exact hname
    · have hsplit : splitAlias field.name = (some source, column.name) := by
        rw [hname]
        exact splitAlias_fullName hfree
      rw [mayMean, stripAlias, hsplit, aliasesConflict_eq_false_iff.2 hagree]
      simp

end ColumnRef

namespace Schema

variable {schema other : Schema} {column : ColumnRef} {i j : Nat}

/-- A reference resolves when some field bears its full name, or when none does and exactly one
has its bare name. -/
theorem exists_resolve_iff :
    (∃ i, schema.resolve column = .ok i) ↔
      column.fullName ∈ schema.names ∨
        (column.fullName ∉ schema.names ∧
          ∃! i : Nat, ∃ field, schema.fields[i]? = some field ∧ column.NamesBare field.name) := by
  have hbare : ∀ i, i ∈ schema.candidates column ↔
      ∃ field, schema.fields[i]? = some field ∧ column.NamesBare field.name := by
    intro i
    rw [mem_candidates_iff]
    simp only [ColumnRef.mayMean_iff_namesBare]
  simp only [← hbare, resolve_eq_ok_iff, exists_or, exists_and_left]
  refine or_congr ?_ (and_congr_right fun _ => ?_)
  · constructor
    · rintro ⟨i, hi⟩
      obtain ⟨field, hfield, hname⟩ := indexOf?_eq_some hi
      exact hname ▸ name_mem_names hfield
    · exact exists_indexOf?
  · constructor
    · rintro ⟨i, hi⟩
      exact ⟨i, by simp [hi], by simp [hi]⟩
    · rintro ⟨i, hi, honly⟩
      refine ⟨i, candidates_eq_singleton fun j => ⟨honly j, ?_⟩⟩
      rintro rfl
      exact hi

/-! ## The same fields in another order -/

/-- The fields of a schema, read place by place. -/
theorem map_fieldAt_range (schema : Schema) :
    (List.range schema.width).map schema.fieldAt = schema.fields := by
  apply List.ext_getElem
  · rw [List.length_map, List.length_range, width]
  · intro i _ hi
    rw [List.getElem_map, List.getElem_range, fieldAt, List.getElem?_eq_getElem hi,
      Option.getD_some]

/-- The candidates of a reference are the places of the fields that it may mean. -/
theorem map_fieldAt_candidates (schema : Schema) (column : ColumnRef) :
    (schema.candidates column).map schema.fieldAt = schema.fields.filter column.mayMean := by
  conv_rhs => rw [← map_fieldAt_range, List.filter_map]
  unfold candidates
  refine congrArg _ (List.filter_congr fun i hi => ?_)
  rw [getElem?_fieldAt (List.mem_range.1 hi), Function.comp_apply]

/-- Schemas with the same fields have the same names. -/
theorem names_perm (hsame : other.fields.Perm schema.fields) : other.names.Perm schema.names :=
  hsame.map _

/-- A name leads to the same field in both orders. -/
theorem exists_indexOf?_of_perm (hnames : schema.names.Nodup)
    (hsame : other.fields.Perm schema.fields) {name : String}
    (hi : schema.indexOf? name = some i) :
    ∃ j field, other.indexOf? name = some j ∧ schema.fields[i]? = some field ∧
      other.fields[j]? = some field := by
  obtain ⟨field, hfield, rfl⟩ := indexOf?_eq_some hi
  obtain ⟨j, hj⟩ := List.getElem?_of_mem (hsame.mem_iff.2 (List.mem_of_getElem? hfield))
  have hdistinct : other.names.Nodup := (names_perm hsame).nodup_iff.2 hnames
  exact ⟨j, field, indexOf?_of_distinct hdistinct hj, hfield, hj⟩

/-- In a schema with the same fields in another order a reference resolves to the same field,
or fails with the same error. -/
theorem resolve_of_perm (hnames : schema.names.Nodup) (hsame : other.fields.Perm schema.fields)
    (column : ColumnRef) :
    Alike (fun i j => ∃ field, schema.fields[i]? = some field ∧ other.fields[j]? = some field)
      (schema.resolve column) (other.resolve column) := by
  rcases hfull : schema.indexOf? column.fullName with _ | i
  · -- No field bears the full name; both orders have as many candidates.
    have hother : other.indexOf? column.fullName = none := by
      rw [indexOf?_eq_none_iff, (names_perm hsame).mem_iff, ← indexOf?_eq_none_iff]
      exact hfull
    have hcandidates : ((other.candidates column).map other.fieldAt).Perm
        ((schema.candidates column).map schema.fieldAt) := by
      rw [map_fieldAt_candidates, map_fieldAt_candidates]
      exact hsame.filter _
    have hlength := hcandidates.length_eq
    rw [List.length_map, List.length_map] at hlength
    unfold resolve
    rw [hfull, hother]
    rcases hleft : schema.candidates column with _ | ⟨i, _ | ⟨i', is⟩⟩ <;>
      rcases hright : other.candidates column with _ | ⟨j, _ | ⟨j', js⟩⟩ <;>
      simp only [hleft, hright, List.length_nil, List.length_cons] at hlength
    case nil.nil => exact .error _
    case cons.nil.cons.nil =>
      rw [hleft, hright, List.map_singleton, List.map_singleton, List.perm_singleton,
        List.singleton_inj] at hcandidates
      have hi := lt_width_of_mem_candidates (hleft ▸ List.mem_singleton_self i)
      have hj := lt_width_of_mem_candidates (hright ▸ List.mem_singleton_self j)
      exact .ok ⟨_, getElem?_fieldAt hi, hcandidates ▸ getElem?_fieldAt hj⟩
    case cons.cons.cons.cons => exact .error _
    all_goals omega
  · obtain ⟨j, field, hj, hfield⟩ := exists_indexOf?_of_perm hnames hsame hfull
    rw [resolve_of_fullName hfull, resolve_of_fullName hj]
    exact .ok ⟨field, hfield⟩

/-! ## Reordered schemas -/

variable {order : List Nat}

/-- A schema that is reordered by all of its places has the same fields. -/
theorem fields_reorder_perm (horder : order.Perm (List.range schema.width)) :
    (schema.reorder order).fields.Perm schema.fields := by
  conv_rhs => rw [← map_fieldAt_range]
  exact horder.map _

/-- Over distinct names, a field of a reordered schema comes from its place in the schema. -/
theorem getElem?_order (hnames : schema.names.Nodup)
    (horder : order.Perm (List.range schema.width)) {field : Field}
    (hfield : schema.fields[i]? = some field)
    (hmoved : (schema.reorder order).fields[j]? = some field) : order[j]? = some i := by
  rw [reorder, List.getElem?_map, Option.map_eq_some_iff] at hmoved
  obtain ⟨k, hk, rfl⟩ := hmoved
  have hlt : k < schema.width :=
    List.mem_range.1 (horder.mem_iff.1 (List.mem_of_getElem? hk))
  have hplace := indexOf?_of_distinct hnames (getElem?_fieldAt hlt)
  rw [indexOf?_of_distinct hnames hfield] at hplace
  rw [hk, hplace]

/-- Over distinct names the order of the columns does not matter.  However the places of a schema
are permuted, a reference resolves to the new place of the field it resolves to, or fails with
the same error; and it resolves when some field bears its full name, or none does and exactly one
has its bare name. -/
theorem resolve_reorder (hnames : schema.names.Nodup) (column : ColumnRef) :
    (∀ order : List Nat, order.Perm (List.range schema.width) →
      Alike (fun i j => order[j]? = some i) (schema.resolve column)
        ((schema.reorder order).resolve column)) ∧
    ((∃ i, schema.resolve column = .ok i) ↔
      column.fullName ∈ schema.names ∨
        (column.fullName ∉ schema.names ∧
          ∃! i : Nat, ∃ field, schema.fields[i]? = some field ∧
            column.NamesBare field.name)) := by
  refine ⟨fun order horder => ?_, exists_resolve_iff⟩
  refine (resolve_of_perm hnames (fields_reorder_perm horder) column).imp ?_
  rintro i j ⟨field, hfield, hmoved⟩
  exact getElem?_order hnames horder hfield hmoved

/-- The columns of orders joined with customers. -/
def orderCustomers : Schema := ⟨[⟨"O.ID", .int64⟩, ⟨"C.ID", .int64⟩, ⟨"C.NAME", .utf8⟩]⟩

/-- With the last column in front, the only name is still found and the number is still
ambiguous. -/
theorem resolve_reorder_rotated :
    orderCustomers.names.Nodup ∧ [2, 0, 1].Perm (List.range orderCustomers.width) ∧
      orderCustomers.resolve ⟨none, "NAME"⟩ = .ok 2 ∧
      (∃ j, (orderCustomers.reorder [2, 0, 1]).resolve ⟨none, "NAME"⟩ = .ok j ∧
        [2, 0, 1][j]? = some 2) ∧
      (orderCustomers.reorder [2, 0, 1]).resolve ⟨none, "ID"⟩ =
        .error (.typing (.ambiguousColumn "ID")) := by
  have hnames : orderCustomers.names.Nodup := by decide
  have horder : [2, 0, 1].Perm (List.range orderCustomers.width) := by decide
  have hname : orderCustomers.resolve ⟨none, "NAME"⟩ = .ok 2 := rfl
  have hid : orderCustomers.resolve ⟨none, "ID"⟩ =
      .error (.typing (.ambiguousColumn "ID")) := rfl
  have hmoved := (resolve_reorder hnames ⟨none, "NAME"⟩).1 _ horder
  have hstill := (resolve_reorder hnames ⟨none, "ID"⟩).1 _ horder
  rw [hname] at hmoved
  rw [hid] at hstill
  exact ⟨hnames, horder, hname, hmoved.eq_ok, hstill.eq_error⟩

end Schema

end StreamPlan
