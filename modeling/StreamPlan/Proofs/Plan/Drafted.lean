import StreamPlan.Plan.Draft
import StreamPlan.Proofs.RowFunction.SelectList

/-!
# What drafts make

A draft succeeds exactly when its checks pass, and then its calls and its node are given by
its inputs.

Main results:

- `requireSource_eq_ok_iff`: the checks of a source.
- `Planner.draftSource_eq_ok_iff`, `Planner.draftSelect_eq_ok_iff`,
  `Planner.draftFilter_eq_ok_iff`, `Planner.draftRekey_eq_ok_iff`,
  `Planner.draftJoin_eq_ok_iff`, `Planner.draftAggregate_eq_ok_iff`,
  `Planner.draftToStream_eq_ok_iff`: the drafts of nodes.
- `Planner.rowKeyIndex_eq_ok_iff`: the column that a rekey overwrites.
- `Planner.draftGroup_eq_ok_iff`: the draft of a grouping.
-/

namespace StreamPlan

/-- A condition under which a result is refused does not hold when it is given. -/
theorem ite_error_eq_ok_iff {α : Type} {refused : Prop} [Decidable refused] {e : Error}
    {rest : Except Error α} {a : α} :
    (if refused then .error e else rest) = .ok a ↔ ¬ refused ∧ rest = .ok a := by
  by_cases h : refused
  · rw [if_pos h]
    simp [h]
  · rw [if_neg h]
    simp [h]

/-- A source has distinct names, and an indexed key is the column it names. -/
theorem requireSource_eq_ok_iff {schema : Schema} {key : Option KeyField} :
    requireSource schema key = .ok () ↔
      schema.names.Nodup ∧ ∀ k i, key = some k → k.index = some i →
        schema.fields[i]? = some ⟨k.name, k.type⟩ := by
  unfold requireSource
  rw [bind_eq_ok_iff]
  constructor
  · rintro ⟨⟨⟩, hnames, hkey⟩
    refine ⟨Schema.requireDistinct_eq_ok_iff.1 hnames, ?_⟩
    rintro k i rfl hindex
    simp only [hindex] at hkey
    split at hkey
    · assumption
    · cases hkey
  · rintro ⟨hnames, hkey⟩
    refine ⟨(), Schema.requireDistinct_eq_ok_iff.2 hnames, ?_⟩
    rcases key with _ | k
    · rfl
    · rcases hindex : k.index with _ | i
      · simp only [hindex]
      · simp only [hindex]
        rw [if_pos (hkey k i rfl hindex)]

/-- The result of a check says only that it passed. -/
theorem requireDistinct_mapError_eq_ok_iff {schema : Schema} {reword : Error → Error} {u : Unit} :
    schema.requireDistinct.mapError reword = .ok u ↔ schema.names.Nodup := by
  rw [mapError_eq_ok_iff]
  exact Schema.requireDistinct_eq_ok_iff

namespace Planner

variable {planner : Planner} {draft : Draft}

/-- The draft of a source. -/
theorem draftSource_eq_ok_iff {form : Form} {topic : String} {schema : Schema}
    {key : Option KeyField} {format : KeyFormat} :
    draftSource form topic schema key format = .ok draft ↔
      requireSource schema key = .ok () ∧
        draft =
          { calls := [form.sourceCall topic schema]
            node := fun id => .source ⟨id, schema, key, format, ⟨form, .source⟩⟩ topic } := by
  unfold draftSource
  rw [bind_eq_ok_iff]
  constructor
  · rintro ⟨⟨⟩, hchecks, heq⟩
    exact ⟨hchecks, (Except.ok.inj heq).symm⟩
  · rintro ⟨hchecks, rfl⟩
    exact ⟨(), hchecks, rfl⟩

/-- The draft of a projection. -/
theorem draftSelect_eq_ok_iff {input : PlanNode} {items : List SelectItem} :
    planner.draftSelect input items = .ok draft ↔
      ∃ compiled, Expr.compileAll "Select" input.schema planner.functions (items.map (·.expr)) =
          .ok compiled ∧
        (Schema.mk (Projection.ofItems items compiled).fields).names.Nodup ∧
        draft =
          { calls := [input.form.mapCall]
            node := fun id =>
              .project
                ⟨id, ⟨(Projection.ofItems items compiled).fields⟩,
                  projectKey input.keyField items, input.keyFormat,
                  ⟨input.form, .map input.pipeline (Projection.ofItems items compiled).apply⟩⟩
                input (.ofItems items compiled) } := by
  unfold draftSelect
  rw [bind_eq_ok_iff]
  refine exists_congr fun compiled => and_congr_right fun _ => ?_
  rw [bind_eq_ok_iff]
  constructor
  · rintro ⟨⟨⟩, hnames, heq⟩
    exact ⟨requireDistinct_mapError_eq_ok_iff.1 hnames, (Except.ok.inj heq).symm⟩
  · rintro ⟨hnames, rfl⟩
    exact ⟨(), requireDistinct_mapError_eq_ok_iff.2 hnames, rfl⟩

/-- The draft of a filter. -/
theorem draftFilter_eq_ok_iff {input : PlanNode} {e : Expr} :
    planner.draftFilter input e = .ok draft ↔
      ∃ predicate, Predicate.compile planner.config planner.functions input.keyFormat.isWindowed
          input.schema e = .ok predicate ∧
        draft =
          { calls := [input.form.filterCall]
            node := fun id =>
              .filter
                ⟨id, input.schema, input.keyField, input.keyFormat,
                  ⟨input.form, .filter input.pipeline predicate.test⟩⟩
                input predicate } := by
  unfold draftFilter
  rw [bind_eq_ok_iff]
  refine exists_congr fun predicate => and_congr_right fun _ => ?_
  rw [Except.ok.injEq, eq_comm]

/-- The column that a rekey overwrites: none, or the one with the configured name. -/
theorem rowKeyIndex_eq_ok_iff {schema : Schema} {updateRowKey : Bool} {index : Option Nat} :
    planner.rowKeyIndex schema updateRowKey = .ok index ↔
      (updateRowKey = false ∧ index = none) ∨
        (updateRowKey = true ∧ ∃ i, schema.indexOf? planner.config.keyColumn = some i ∧
          index = some i) := by
  unfold rowKeyIndex
  cases updateRowKey with
  | false => simp [eq_comm]
  | true => cases schema.indexOf? planner.config.keyColumn <;> simp [eq_comm]

/-- A column is overwritten exactly when the request says so. -/
theorem isSome_of_rowKeyIndex {schema : Schema} {updateRowKey : Bool} {index : Option Nat}
    (h : planner.rowKeyIndex schema updateRowKey = .ok index) : index.isSome = updateRowKey := by
  rcases rowKeyIndex_eq_ok_iff.1 h with ⟨rfl, rfl⟩ | ⟨rfl, i, -, rfl⟩ <;> rfl

/-- The draft of a rekey. -/
theorem draftRekey_eq_ok_iff {input : PlanNode} {key : KeyField} {updateRowKey : Bool} :
    planner.draftRekey input key updateRowKey = .ok draft ↔
      ¬ input.isTable = true ∧
        ∃ index rowKeyIndex, resolveKey input.schema key.name = .ok index ∧
          planner.rowKeyIndex input.schema updateRowKey = .ok rowKeyIndex ∧
          draft =
            { calls :=
                [.filter, .selectKey] ++ if rowKeyIndex.isSome then [.mapValues] else []
              node := fun id =>
                .rekey
                  ⟨id, input.schema,
                    some ⟨(input.schema.fieldAt index).name, key.index.map fun _ => index,
                      (input.schema.fieldAt index).type⟩,
                    .plain, ⟨.stream, rekeyPipeline ⟨index, rowKeyIndex⟩ input.pipeline⟩⟩
                  input ⟨index, rowKeyIndex⟩ } := by
  unfold draftRekey
  rw [ite_error_eq_ok_iff, bind_eq_ok_iff]
  refine and_congr_right fun _ => exists_congr fun index => ?_
  rw [bind_eq_ok_iff]
  constructor
  · rintro ⟨hindex, rowKeyIndex, hrow, heq⟩
    exact ⟨rowKeyIndex, hindex, hrow, (Except.ok.inj heq).symm⟩
  · rintro ⟨rowKeyIndex, hindex, hrow, rfl⟩
    exact ⟨hindex, rowKeyIndex, hrow, rfl⟩

/-- The draft of a join. -/
theorem draftJoin_eq_ok_iff {left right : PlanNode} {request : JoinRequest} :
    draftJoin left right request = .ok draft ↔
      ¬ left.isTable = true ∧ request.schema = left.schema.append right.schema ∧
        ∃ key call, joinKey request = .ok key ∧ joinCall right.form request = .ok call ∧
          draft =
            { calls := [call]
              node := fun id =>
                .join
                  ⟨id, request.schema, some key, left.keyFormat,
                    ⟨.stream, .join (.ofSchemas left.schema right.schema)⟩⟩
                  left right request.kind request.window
                  (.ofSchemas left.schema right.schema) } := by
  unfold draftJoin
  rw [ite_error_eq_ok_iff, ite_error_eq_ok_iff, bind_eq_ok_iff, Decidable.not_not]
  refine and_congr_right fun _ => and_congr_right fun _ => exists_congr fun key => ?_
  rw [bind_eq_ok_iff]
  constructor
  · rintro ⟨hkey, call, hcall, heq⟩
    exact ⟨call, hkey, hcall, (Except.ok.inj heq).symm⟩
  · rintro ⟨call, hkey, hcall, rfl⟩
    exact ⟨hkey, call, hcall, rfl⟩

/-- The draft of an aggregation. -/
theorem draftAggregate_eq_ok_iff {grouped : GroupedStream} {items : List AggregateItem} :
    planner.draftAggregate grouped items = .ok draft ↔
      ∃ compiled aggregator, Aggregator.compile grouped.source.schema planner.functions items =
          .ok compiled ∧
        aggregator = compiled.withKey grouped.keyField.index grouped.keyField.type ∧
        (Schema.mk (⟨grouped.keyField.name, grouped.keyField.type⟩ ::
          aggregator.fields)).names.Nodup ∧
        draft =
          { calls := [.aggregate]
            node := fun id =>
              .aggregate
                ⟨id, ⟨⟨grouped.keyField.name, grouped.keyField.type⟩ :: aggregator.fields⟩,
                  some ⟨grouped.keyField.name, some 0, grouped.keyField.type⟩,
                  grouped.keyFormat,
                  ⟨.table, .aggregate grouped.pipeline grouped.groupKey aggregator⟩⟩
                grouped.source grouped.groupKey aggregator } := by
  unfold draftAggregate
  rw [bind_eq_ok_iff]
  refine exists_congr fun compiled => ?_
  constructor
  · rintro ⟨hcompiled, h⟩
    obtain ⟨⟨⟩, hnames, heq⟩ := bind_eq_ok_iff.1 h
    exact ⟨_, hcompiled, rfl, requireDistinct_mapError_eq_ok_iff.1 hnames,
      (Except.ok.inj heq).symm⟩
  · rintro ⟨_, hcompiled, rfl, hnames, rfl⟩
    exact ⟨hcompiled, bind_eq_ok_iff.2 ⟨(), requireDistinct_mapError_eq_ok_iff.2 hnames, rfl⟩⟩

/-- The draft of the changes of a table. -/
theorem draftToStream_eq_ok_iff {input : PlanNode} :
    draftToStream input = .ok draft ↔
      input.isTable = true ∧
        draft =
          { calls := [.tableToStream]
            node := fun id =>
              .toStream
                ⟨id, input.schema, input.keyField, input.keyFormat,
                  ⟨.stream, .changelog input.pipeline⟩⟩
                input } := by
  unfold draftToStream
  by_cases htable : input.isTable = true
  · rw [if_pos htable, Except.ok.injEq, eq_comm]
    exact (and_iff_right htable).symm
  · rw [if_neg htable]
    simp [htable]

/-- A grouping is on the key of the input when the key serves it, and otherwise on the
values of the list. -/
theorem draftGroup_eq_ok_iff {input : PlanNode} {parts : List Expr} {encoding : String}
    {draft : GroupDraft} :
    planner.draftGroup input parts encoding = .ok draft ↔
      ¬ parts.isEmpty = true ∧ ¬ input.isTable = true ∧
        ((∃ key, input.keyField = some key ∧ servesGrouping key parts = true ∧
            groupOnKey input key encoding = draft) ∨
          ((∀ key, input.keyField = some key → servesGrouping key parts = false) ∧
            planner.groupOnValues input parts encoding = .ok draft)) := by
  unfold draftGroup
  rw [ite_error_eq_ok_iff, ite_error_eq_ok_iff]
  refine and_congr_right fun _ => and_congr_right fun _ => ?_
  rcases input.keyField with _ | key
  · simp
  · by_cases hserves : servesGrouping key parts = true
    · simp [hserves]
    · simp [hserves]

end Planner

end StreamPlan
