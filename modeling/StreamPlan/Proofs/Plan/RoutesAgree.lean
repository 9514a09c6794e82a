import StreamPlan.Proofs.Plan.GroupedFolds
import StreamPlan.Proofs.Plan.GroupingRoutes
import StreamPlan.Proofs.RowFunction.Conforming

/-!
# Agreement of the routes to a grouping

The key column of the aggregate rows of a stream grouped by a column is read from the rows,
cast back from the text of the key, or that text itself, depending on the route the grouping
was made on.  Otherwise the routes agree: the groups are the same and hold the same rows.

Main results:

- `Planner.AggregatesTo`: what an aggregation of a grouped stream makes of records.
- `GroupedStream.GroupsTexts.keyValue_eq_value`: the key column of a typed key.
- `GroupedStream.GroupsTexts.steps_eq`: aggregations of the same rows.
- `Planner.routes_agree`: all routes group and aggregate alike.
-/

namespace StreamPlan

/-! ## Aggregations of grouped streams -/

/-- In every session an aggregation of the grouped stream is returned that makes these steps of
input records. -/
def Planner.AggregatesTo (planner : Planner) (grouped : GroupedStream)
    (items : List AggregateItem) (records : List Record)
    (steps : List (List Pipeline.FoldStep)) : Prop :=
  ∀ session, ∃ node after, (planner.aggregate grouped items).exec session = (.ok node, after) ∧
    node.pipeline.fold? records = some steps

/-- The aggregation of a grouped stream with the key that it has. -/
def GroupedStream.grouping (grouped : GroupedStream) (compiled : Aggregator) :
    Pipeline.Grouping :=
  ⟨grouped.pipeline, grouped.groupKey,
    compiled.withKey grouped.keyField.index grouped.keyField.type⟩

/-- The steps that the aggregation of a grouped stream makes of input records. -/
def GroupedStream.steps (grouped : GroupedStream) (compiled : Aggregator)
    (records : List Record) : List (List Pipeline.FoldStep) :=
  Pipeline.foldInputs (grouped.grouping compiled).pipeline (grouped.grouping compiled) [] records

/-- The aggregation groups like the grouped stream. -/
@[simp] theorem GroupedStream.groupKey_grouping (grouped : GroupedStream)
    (compiled : Aggregator) : (grouped.grouping compiled).groupKey = grouped.groupKey := rfl

namespace Planner

variable {planner : Planner} {grouped : GroupedStream} {items : List AggregateItem}

/-- The fields of aggregate rows are named like the key and the items. -/
theorem names_aggregate {compiled : Aggregator}
    (hcompiled : Aggregator.compile grouped.source.schema planner.functions items =
      .ok compiled) :
    (Schema.mk (⟨grouped.keyField.name, grouped.keyField.type⟩ ::
        (grouped.grouping compiled).aggregator.fields)).names =
      grouped.keyField.name :: items.map (·.name) := by
  rw [← Aggregator.names_of_compile hcompiled]
  rfl

/-- Items that compile, named apart from each other and from the key, are aggregated. -/
theorem aggregatesTo_of_nodup {compiled : Aggregator}
    (hcompiled : Aggregator.compile grouped.source.schema planner.functions items =
      .ok compiled)
    (hnames : (grouped.keyField.name :: items.map (·.name)).Nodup) (records : List Record) :
    planner.AggregatesTo grouped items records (grouped.steps compiled records) := by
  intro session
  have hdraft := draftAggregate_eq_ok_iff.2
    ⟨compiled, _, hcompiled, rfl, (names_aggregate hcompiled).symm ▸ hnames, rfl⟩
  have hexec := planner.exec_carryOut_of_total hdraft (by simp [EngineCall.mayFail]) session
  exact ⟨_, _, hexec, rfl⟩

/-- Items that are not named apart are refused. -/
theorem aggregate_refused_of_not_nodup
    (hnames : ¬ (grouped.keyField.name :: items.map (·.name)).Nodup) (session : Session) :
    ∃ error, (planner.aggregate grouped items).exec session = (.error error, session) := by
  rcases hdraft : planner.draftAggregate grouped items with error | draft
  · refine ⟨error, ?_⟩
    rw [aggregate, carryOut, Build.exec_bind, Build.exec_ofExcept, hdraft]
  · obtain ⟨compiled, aggregator, hcompiled, rfl, hnodup, -⟩ :=
      draftAggregate_eq_ok_iff.1 hdraft
    exact absurd (names_aggregate hcompiled ▸ hnodup) hnames

end Planner

/-! ## Agreement -/

/-- The text of a value, as a value. -/
def Value.asText (v : Value) : Value := .utf8 v.text

/-- The records that leave a node have no row or one of its schema, where a time in column `i`
lies within the day. -/
def PlanNode.YieldsRows (node : PlanNode) (i : Nat) (records : List Record) : Prop :=
  ∀ record ∈ node.pipeline.run records, ∀ row, record.row = some row →
    row.Conforms node.schema ∧ (row.get i).WithinDay

/-- What leaves a pipeline for one record leaves it for all records. -/
theorem Pipeline.mem_run_of_mem {pipeline : Pipeline} {records : List Record}
    {record out : Record} (hrecord : record ∈ records) (hout : out ∈ pipeline.run [record]) :
    out ∈ pipeline.run records := by
  obtain ⟨before, after, rfl⟩ := List.append_of_mem hrecord
  rw [← List.singleton_append, run_append, run_append]
  exact List.mem_append_right _ (List.mem_append_left _ hout)

/-- The values in the column of the rows that are kept have its type. -/
theorem PlanNode.GroupableBy.value_of_mem_keptRows {node : PlanNode} {i : Nat} {field : Field}
    (h : node.GroupableBy i field) {records : List Record} (hrecords : node.YieldsRows i records)
    {record : Record} (hrecord : record ∈ records) {row : Row}
    (hrow : row ∈ keptRows i (node.pipeline.run [record])) :
    (row.get i).dataType = field.type ∧ (row.get i).WithinDay := by
  obtain ⟨out, hout, hkept, hvalue⟩ := mem_keptRows_iff.1 hrow
  obtain ⟨hconforms, hday⟩ := hrecords out (Pipeline.mem_run_of_mem hrecord hout) row hkept
  have hi : i < node.schema.width := (List.getElem?_eq_some_iff.1 h.column).1
  have hfits := hconforms.fits i hi
  rw [Schema.typeAt_of_getElem? h.column] at hfits
  refine ⟨hfits.resolve_left ?_, hday⟩
  intro hnull
  rw [hnull] at hvalue
  cases hvalue

namespace GroupedStream.GroupsTexts

variable {node : PlanNode} {i : Nat} {name : String} {compiled : Aggregator}

/-- A key column of the type of the value holds the value, read from the row or cast back. -/
theorem keyValue_eq_value {grouped : GroupedStream} (h : grouped.GroupsTexts node i name)
    (compiled : Aggregator) {row : Row} (htype : (row.get i).dataType = grouped.keyField.type)
    (htext : Value.TextTyped grouped.keyField.type) (hday : (row.get i).WithinDay) :
    (grouped.grouping compiled).aggregator.keyValue (.utf8 (row.get i).text) row =
      row.get i := by
  have hcast : (Value.utf8 (row.get i).text).cast grouped.keyField.type = .ok (row.get i) := by
    rw [← htype] at htext ⊢
    exact Value.cast_utf8_text htext hday
  rcases h.index with hindex | hindex
  · simp only [GroupedStream.grouping, Aggregator.withKey, Aggregator.keyValue, hindex, hcast]
  · simp only [GroupedStream.grouping, Aggregator.withKey, Aggregator.keyValue, hindex, htype,
      if_true]

/-- A key column of the type of the grouped column holds its values in the rows that are kept. -/
theorem keyValue_of_mem_keptRows {field : Field} {grouped : GroupedStream}
    (hgrouped : grouped.GroupsTexts node i name) (htype : grouped.keyField.type = field.type)
    (h : node.GroupableBy i field) {records : List Record} (hrecords : node.YieldsRows i records)
    (compiled : Aggregator) {record : Record} (hrecord : record ∈ records) {row : Row}
    (hrow : row ∈ keptRows i (node.pipeline.run [record])) :
    (grouped.grouping compiled).aggregator.keyValue (.utf8 (row.get i).text) row =
      row.get i := by
  obtain ⟨hvalue, hday⟩ := h.value_of_mem_keptRows hrecords hrecord hrow
  have htext : Value.TextTyped grouped.keyField.type := htype ▸ h.textTyped
  exact hgrouped.keyValue_eq_value compiled (htype ▸ hvalue) htext hday

/-- A key column of texts holds the key as it is. -/
theorem keyValue_of_text {grouped : GroupedStream}
    (hkey : grouped.keyField = .synthetic name .utf8) (compiled : Aggregator) (text : String)
    (row : Row) :
    (grouped.grouping compiled).aggregator.keyValue (.utf8 text) row = .utf8 text := by
  have hcast : (Value.utf8 text).cast .utf8 = .ok (.utf8 text) := Value.cast_of_dataType_eq rfl
  simp only [GroupedStream.grouping, Aggregator.withKey, Aggregator.keyValue, hkey,
    KeyField.synthetic, hcast]

/-- Two grouped streams of the same rows are in step on every record when one shows an image of
the key column of the other. -/
theorem inStep {left right : GroupedStream} (hleft : left.GroupsTexts node i name)
    (hright : right.GroupsTexts node i name) {g : Value → Value} {records : List Record}
    (hvalue : ∀ row ∈ keptRows i (node.pipeline.run records),
      (right.grouping compiled).aggregator.keyValue (.utf8 (row.get i).text) row =
        g ((left.grouping compiled).aggregator.keyValue (.utf8 (row.get i).text) row)) :
    List.Forall₂ (Pipeline.InStep g (left.grouping compiled) (right.grouping compiled))
      (left.pipeline.run records) (right.pipeline.run records) := by
  refine (forall₂_of_common (hleft.rows records) (hright.rows records)).imp ?_
  rintro l r ⟨row, hrow, ⟨hl, hlkey⟩, hr, hrkey⟩
  refine ⟨row, hl, hr, hrkey.trans hlkey.symm, ?_⟩
  rw [groupKey_grouping, hlkey]
  exact hvalue row hrow

/-- Aggregations of two grouped streams of the same rows differ in the key column only. -/
theorem steps_eq {left right : GroupedStream} (hleft : left.GroupsTexts node i name)
    (hright : right.GroupsTexts node i name) {g : Value → Value} {records : List Record}
    (hvalue : ∀ record ∈ records, ∀ row ∈ keptRows i (node.pipeline.run [record]),
      (right.grouping compiled).aggregator.keyValue (.utf8 (row.get i).text) row =
        g ((left.grouping compiled).aggregator.keyValue (.utf8 (row.get i).text) row)) :
    right.steps compiled records =
      (left.steps compiled records).map
        (List.map (Pipeline.FoldStep.mapRow (Row.mapFirst g))) := by
  have hcolumns : (right.grouping compiled).aggregator.columns =
      (left.grouping compiled).aggregator.columns := rfl
  have hstep : ∀ record ∈ records,
      List.Forall₂ (Pipeline.InStep g (left.grouping compiled) (right.grouping compiled))
        (left.pipeline.run [record]) (right.pipeline.run [record]) :=
    fun record hrecord => hleft.inStep hright (hvalue record hrecord)
  exact Pipeline.foldInputs_mapFirst hcolumns hstep (Pipeline.Store.hasWidth_nil _)

/-- An aggregate row of a grouped stream is in the group of a row that is kept, and shows its
key. -/
theorem exists_row_of_updated {grouped : GroupedStream} (h : grouped.GroupsTexts node i name)
    {records : List Record} {group : List Pipeline.FoldStep} {key : RecordKey} {next : Row}
    {out : List Record}
    (hgroup : group ∈ grouped.steps compiled records) (hstep : .updated key next out ∈ group) :
    ∃ record ∈ records, ∃ row ∈ keptRows i (node.pipeline.run [record]),
      key = .plain (.utf8 (row.get i).text) ∧
      next.get 0 =
        (grouped.grouping compiled).aggregator.keyValue (.utf8 (row.get i).text) row := by
  obtain ⟨record, hrecord, out, hout, row, hrow, rfl, hnext⟩ :=
    Pipeline.exists_record_of_updated (Pipeline.Store.hasWidth_nil _) hgroup hstep
  obtain ⟨kept, hkept, hsame, hkey⟩ := exists_mem_of_forall₂ (h.rows [record]) hout
  obtain rfl : row = kept := Option.some.inj (hrow.symm.trans hsame)
  refine ⟨record, hrecord, row, hkept, hkey, hnext.trans ?_⟩
  rw [groupKey_grouping, hkey]
  rfl

end GroupedStream.GroupsTexts

/-- Three grouped streams agree on records: the same rows stand in the same groups in the same
order, and aggregations of the first two make the same rows.  Those of the third have the text
of the typed key in the first column. -/
structure PlanNode.AgreeOn (node : PlanNode) (planner : Planner) (i : Nat) (field : Field)
    (a b c : GroupedStream) (records : List Record) : Prop where
  rows : ∀ grouped ∈ [a, b, c], grouped.run records =
    (keptRows i (node.pipeline.run records)).map fun row => (.utf8 (row.get i).text, some row)
  aggregates : ∀ items compiled,
    Aggregator.compile node.schema planner.functions items = .ok compiled →
    (field.name :: items.map (·.name)).Nodup →
    ∃ steps, planner.AggregatesTo a items records steps ∧
      planner.AggregatesTo b items records steps ∧
      planner.AggregatesTo c items records
        (steps.map (List.map (Pipeline.FoldStep.mapRow (Row.mapFirst Value.asText)))) ∧
      ∀ group ∈ steps, ∀ key next out, .updated key next out ∈ group →
        (next.get 0).dataType = field.type ∧ key = .plain (next.get 0).asText
  refused : ∀ items, ¬ (field.name :: items.map (·.name)).Nodup → ∀ grouped ∈ [a, b, c],
    ∀ session, ∃ error, (planner.aggregate grouped items).exec session = (.error error, session)

/-- Grouped streams of the same rows agree when the keys of the first two have the type of the
column and the key of the third is a text. -/
theorem GroupedStream.agreeOn_of_groupsTexts {node : PlanNode} {i : Nat} {field : Field}
    (h : node.GroupableBy i field) {planner : Planner} {a b c : GroupedStream}
    (ha : a.GroupsTexts node i field.name) (hatype : a.keyField.type = field.type)
    (hb : b.GroupsTexts node i field.name) (hbtype : b.keyField.type = field.type)
    (hc : c.GroupsTexts node i field.name) (hckey : c.keyField = .synthetic field.name .utf8)
    {records : List Record} (hrecords : node.YieldsRows i records) :
    node.AgreeOn planner i field a b c records where
  rows := by simp [ha.run_eq, hb.run_eq, hc.run_eq]
  aggregates := by
    intro items compiled hcompiled hnames
    have htyped : ∀ record ∈ records, ∀ row ∈ keptRows i (node.pipeline.run [record]),
        (a.grouping compiled).aggregator.keyValue (.utf8 (row.get i).text) row = row.get i :=
      fun record hrecord row hrow =>
        ha.keyValue_of_mem_keptRows hatype h hrecords compiled hrecord hrow
    have hab : b.steps compiled records = a.steps compiled records := by
      rw [ha.steps_eq hb (g := id) fun record hrecord row hrow => ?_]
      · simp
      · rw [htyped record hrecord row hrow]
        exact hb.keyValue_of_mem_keptRows hbtype h hrecords compiled hrecord hrow
    have hac : c.steps compiled records = (a.steps compiled records).map
        (List.map (Pipeline.FoldStep.mapRow (Row.mapFirst Value.asText))) := by
      apply ha.steps_eq hc
      intro record hrecord row hrow
      rw [htyped record hrecord row hrow]
      exact GroupsTexts.keyValue_of_text hckey compiled (row.get i).text row
    have haggregates : ∀ {grouped : GroupedStream}, grouped.GroupsTexts node i field.name →
        planner.AggregatesTo grouped items records (grouped.steps compiled records) :=
      fun hgrouped => Planner.aggregatesTo_of_nodup (hgrouped.schema ▸ hcompiled)
        (hgrouped.name ▸ hnames) records
    refine ⟨a.steps compiled records, haggregates ha, hab ▸ haggregates hb,
      hac ▸ haggregates hc, fun group hgroup key next out hstep => ?_⟩
    obtain ⟨record, hrecord, row, hrow, rfl, hnext⟩ := ha.exists_row_of_updated hgroup hstep
    rw [htyped record hrecord row hrow] at hnext
    rw [hnext]
    exact ⟨(h.value_of_mem_keptRows hrecords hrecord hrow).1, rfl⟩
  refused := by
    intro items hnames grouped hgrouped
    have hname : grouped.keyField.name = field.name := by
      simp only [List.mem_cons, List.not_mem_nil, or_false] at hgrouped
      obtain rfl | rfl | rfl := hgrouped
      · exact ha.name
      · exact hb.name
      · exact hc.name
    exact Planner.aggregate_refused_of_not_nodup (hname ▸ hnames)

/-- The routes to a grouping by a column agree, in whatever sessions they are taken.  Rekeying
by the column, with the key as that column or as a synthetic one, reuses the new key; dropping
the rows without a value and grouping on it repartitions.  On every list of records with rows of
the schema or none, the same rows stand under the same texts in the same order, and aggregations
are equal up to the type of the key column: the typed value on the first two, its text on the
third. -/
theorem Planner.routes_agree (planner : Planner) {node : PlanNode} {i : Nat} {field : Field}
    (h : node.GroupableBy i field) (j : Nat) (s t : DataType) (encoding : String)
    (first second third : Session) :
    ∃ a b c : GroupedStream,
      (∃ after, (planner.groupRekeyed node ⟨field.name, some j, s⟩ encoding).exec first =
        (.ok a, after)) ∧
      (∃ after, (planner.groupRekeyed node (.synthetic field.name t) encoding).exec second =
        (.ok b, after)) ∧
      (∃ after, (planner.groupPresent node field.name encoding).exec third =
        (.ok c, after)) ∧
      (a.isRepartitioned = false ∧ a.keyField = .ofColumn field i) ∧
      (b.isRepartitioned = false ∧ b.keyField = .synthetic field.name field.type) ∧
      (c.isRepartitioned = true ∧ c.keyField = .synthetic field.name .utf8) ∧
      ∀ records, node.YieldsRows i records → node.AgreeOn planner i field a b c records := by
  obtain ⟨a, afterFirst, hafirst, hareused, hakey, ha⟩ :=
    h.exec_groupRekeyed planner ⟨field.name, some j, s⟩ rfl encoding first
  obtain ⟨b, afterSecond, hbsecond, hbreused, hbkey, hb⟩ :=
    h.exec_groupRekeyed planner (.synthetic field.name t) rfl encoding second
  obtain ⟨c, afterThird, hcthird, hcvalues, hckey, hc⟩ :=
    h.exec_groupPresent planner encoding third
  have hatype : a.keyField.type = field.type := by rw [hakey]
  have hbtype : b.keyField.type = field.type := by rw [hbkey]
  exact ⟨a, b, c, ⟨afterFirst, hafirst⟩, ⟨afterSecond, hbsecond⟩, ⟨afterThird, hcthird⟩,
    ⟨hareused, hakey⟩, ⟨hbreused, hbkey⟩, ⟨hcvalues, hckey⟩, fun records hrecords =>
      GroupedStream.agreeOn_of_groupsTexts h ha hatype hb hbtype hc hckey hrecords⟩

/-- Visits by user and time of day. -/
def visits : PlanNode :=
  .source
    ⟨⟨0⟩, ⟨[⟨"USER", .utf8⟩, ⟨"AT", .timeOfDay⟩]⟩, some ⟨"USER", some 0, .utf8⟩, .plain,
      ⟨.stream, .source⟩⟩
    "visits"

/-- A visit of a user at a time. -/
def visit (user : String) (at? : Value) : Record := ⟨.plain (.utf8 user), some ⟨[.utf8 user, at?]⟩⟩

/-- Visits at two times and one at an unknown time. -/
def someVisits : List Record :=
  [visit "ann" (.time 34200000), visit "bob" .null, visit "cid" (.time 34200001),
    visit "ann" (.time 34200000)]

/-- The visits are grouped by time on all routes. -/
theorem Planner.routes_agree_visits :
    ∃ a b c : GroupedStream,
      ((∃ after, (standard.groupRekeyed visits ⟨"AT", some 1, .timeOfDay⟩ "json").exec .empty =
        (.ok a, after)) ∧
      (∃ after, (standard.groupRekeyed visits (.synthetic "AT" .timeOfDay) "json").exec .empty =
        (.ok b, after)) ∧
      (∃ after, (standard.groupPresent visits "AT" "json").exec .empty = (.ok c, after))) ∧
      c.run someVisits =
        [(.utf8 "09:30:00", some ⟨[.utf8 "ann", .time 34200000]⟩),
          (.utf8 "09:30:00.001", some ⟨[.utf8 "cid", .time 34200001]⟩),
          (.utf8 "09:30:00", some ⟨[.utf8 "ann", .time 34200000]⟩)] ∧
      ∃ steps, standard.AggregatesTo a [⟨"N", .countAll⟩] someVisits steps ∧
        standard.AggregatesTo b [⟨"N", .countAll⟩] someVisits steps ∧
        standard.AggregatesTo c [⟨"N", .countAll⟩] someVisits
          (steps.map (List.map (Pipeline.FoldStep.mapRow (Row.mapFirst Value.asText)))) := by
  have hgroupable : visits.GroupableBy 1 ⟨"AT", .timeOfDay⟩ :=
    { isStream := rfl
      plainKeys := rfl
      distinct := by decide
      dotFree := by decide
      column := rfl
      textTyped := by decide
      otherKey := by
        intro key hkey
        obtain rfl := Option.some.inj hkey
        decide }
  have hyields : visits.YieldsRows 1 someVisits := by
    intro record hrecord row hrow
    have hrows : ∀ other ∈ someVisits, ∃ values, other.row = some ⟨values⟩ ∧
        (Row.mk values).Conforms visits.schema ∧ ((Row.mk values).get 1).WithinDay := by
      simp only [someVisits, List.forall_mem_cons, visit]
      refine ⟨⟨_, rfl, ?_⟩, ⟨_, rfl, ?_⟩, ⟨_, rfl, ?_⟩, ⟨_, rfl, ?_⟩, nofun⟩ <;> decide
    obtain ⟨values, hvalues, hholds⟩ := hrows record hrecord
    obtain rfl : row = ⟨values⟩ := Option.some.inj (hrow.symm.trans hvalues)
    exact hholds
  obtain ⟨a, b, c, ha, hb, hc, -, -, -, hagree⟩ :=
    standard.routes_agree hgroupable 1 .timeOfDay .timeOfDay "json" .empty .empty .empty
  obtain ⟨steps, hfirst, hsecond, hthird, -⟩ :=
    (hagree someVisits hyields).aggregates [⟨"N", .countAll⟩] _ rfl (by decide)
  refine ⟨a, b, c, ⟨ha, hb, hc⟩, ?_, steps, hfirst, hsecond, hthird⟩
  rw [(hagree someVisits hyields).rows c (by simp)]
  rfl

end StreamPlan
