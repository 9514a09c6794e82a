import StreamPlan.Proofs.Plan.KeyPropagation
import StreamPlan.Proofs.Plan.Run

/-!
# Reusing the key of a stream

Grouping and rekeying keep the partitioning of a stream when the name they are asked for is
the name of its key.  That is right as long as the name means a column that hands on the
key: the column the records were keyed by, passed on by bare references only.  A projection
may give that column another name, or its name to another column.  A grouping goes by the
bare name, so its reference may also contradict the alias of the key, spell out another
column or be ambiguous.

Main results:

- `Planner.KeyedChain`: projections, filters and rekeys over keyed streams.
- `PlanNode.TracesKey`: the columns of a node that hand on the record key.
- `Planner.KeyedChain.text_eq_of_tracesKey`: such a column reads like the record key.
- `Planner.KeyedChain.keyNamed`: when the column with the name of the key is one of them.
- `Planner.not_isRepartitioned_iff`: the groupings that keep the partitioning.
- `Planner.KeyedChain.reuse_sound`: when a reused key is the one that was asked for.
- `Planner.not_reuse_sound`: the ways in which it is not.
-/

namespace StreamPlan

/-! ## Chains of operators -/

/-- The nodes that projections, filters and rekeys make over streams whose key is a column
of theirs; the rekeys overwrite no column. -/
inductive Planner.KeyedChain (planner : Planner) : PlanNode → Prop
  | source {topic : String} {schema : Schema} {key : KeyField} {format : KeyFormat}
      {before after : Session} {node : PlanNode} (indexed : key.isSynthetic = false)
      (returned :
        (planner.sourceStream topic schema (some key) format).exec before = (.ok node, after)) :
      KeyedChain planner node
  | select {input : PlanNode} {items : List SelectItem} {before after : Session}
      {node : PlanNode} (chain : KeyedChain planner input)
      (returned : (planner.select input items).exec before = (.ok node, after)) :
      KeyedChain planner node
  | filter {input : PlanNode} {e : Expr} {before after : Session} {node : PlanNode}
      (chain : KeyedChain planner input)
      (returned : (planner.filter input e).exec before = (.ok node, after)) :
      KeyedChain planner node
  | rekey {input : PlanNode} {key : KeyField} {before after : Session} {node : PlanNode}
      (chain : KeyedChain planner input)
      (returned : (planner.rekey input key false).exec before = (.ok node, after)) :
      KeyedChain planner node

namespace Planner.KeyedChain

variable {planner : Planner} {node : PlanNode}

/-- A property of sources that projections, filters and rekeys pass on holds of every node
of a chain. -/
theorem induct {motive : PlanNode → Prop}
    (source : ∀ id topic schema key format, key.isSynthetic = false →
      requireSource schema (some key) = .ok () →
      motive (.source ⟨id, schema, some key, format, ⟨.stream, .source⟩⟩ topic))
    (project : ∀ id input items compiled,
      Expr.compileAll "Select" input.schema planner.functions (items.map (·.expr)) =
          .ok compiled →
        (Schema.mk (Projection.ofItems items compiled).fields).names.Nodup →
        planner.KeyedChain input → motive input →
        motive
          (.project
            ⟨id, ⟨(Projection.ofItems items compiled).fields⟩, projectKey input.keyField items,
              input.keyFormat,
              ⟨input.form, .map input.pipeline (Projection.ofItems items compiled).apply⟩⟩
            input (.ofItems items compiled)))
    (filter : ∀ id input predicate, planner.KeyedChain input → motive input →
      motive
        (.filter
          ⟨id, input.schema, input.keyField, input.keyFormat,
            ⟨input.form, .filter input.pipeline (Predicate.test predicate)⟩⟩
          input predicate))
    (rekey : ∀ id input name index keyIndex, resolveKey input.schema name = .ok index →
      planner.KeyedChain input → motive input →
      motive
        (.rekey
          ⟨id, input.schema,
            some ⟨(input.schema.fieldAt index).name, keyIndex,
              (input.schema.fieldAt index).type⟩,
            .plain, ⟨.stream, rekeyPipeline ⟨index, none⟩ input.pipeline⟩⟩
          input ⟨index, none⟩))
    (chain : planner.KeyedChain node) : motive node := by
  induction chain with
  | source indexed returned =>
    obtain ⟨draft, hdraft, -, rfl, -⟩ := exec_carryOut_eq_ok_iff.1 returned
    obtain ⟨hchecks, rfl⟩ := draftSource_eq_ok_iff.1 hdraft
    exact source _ _ _ _ _ indexed hchecks
  | select chain returned ih =>
    obtain ⟨draft, hdraft, -, rfl, -⟩ := exec_carryOut_eq_ok_iff.1 returned
    obtain ⟨compiled, hcompiled, hnames, rfl⟩ := draftSelect_eq_ok_iff.1 hdraft
    exact project _ _ _ _ hcompiled hnames chain ih
  | filter chain returned ih =>
    obtain ⟨draft, hdraft, -, rfl, -⟩ := exec_carryOut_eq_ok_iff.1 returned
    obtain ⟨predicate, -, rfl⟩ := draftFilter_eq_ok_iff.1 hdraft
    exact filter _ _ _ chain ih
  | @rekey input key before after node chain returned ih =>
    rcases @NodeCall.exec_build planner (.rekey input key false) before after node returned with
      ⟨hunchanged, -⟩ | ⟨draft, -, hdraft, rfl, -⟩
    · obtain rfl := List.mem_singleton.1 (NodeCall.mem_inputs_of_unchanged hunchanged)
      exact ih
    · obtain ⟨-, index, rowKeyIndex, hindex, hrow, rfl⟩ := draftRekey_eq_ok_iff.1 hdraft
      obtain rfl : none = rowKeyIndex := Except.ok.inj hrow
      exact rekey _ _ _ _ _ hindex chain ih

/-- The nodes of a chain have distinct names. -/
theorem nodup_names (chain : planner.KeyedChain node) : node.schema.names.Nodup := by
  refine induct (motive := fun node => node.schema.names.Nodup) ?source ?project ?filter ?rekey
    chain
  case source =>
    intro id topic schema key format indexed hchecks
    exact (requireSource_eq_ok_iff.1 hchecks).1
  case project =>
    intro id input items compiled hcompiled hnames chain ih
    exact hnames
  case filter =>
    intro id input predicate chain ih
    exact ih
  case rekey =>
    intro id input name index keyIndex hindex chain ih
    exact ih

end Planner.KeyedChain

/-! ## Columns that hand on the key -/

/-- The text of a record key: of the whole key, with any window, or of its value alone. -/
inductive KeyReading where
  | whole
  | value

/-- The text of a key. -/
def KeyReading.text : KeyReading → RecordKey → String
  | whole, key => key.text
  | value, key => key.value.text

/-- Both readings of a plain key are the text of its value. -/
theorem KeyReading.text_plain (reading : KeyReading) (v : Value) :
    reading.text (.plain v) = v.text := by
  cases reading <;> rfl

namespace PlanNode

/-- The records of the source below a node are keyed by its key column: on each record with
a row, the key reads like the value in that column. -/
def SourceKeyed (reading : KeyReading) (records : List Record) : PlanNode → Prop
  | source head _ => ∀ key i, head.keyField = some key → key.index = some i →
      ∀ record ∈ records, ∀ row, record.row = some row →
        (row.get i).text = reading.text record.key
  | project _ input _ => input.SourceKeyed reading records
  | filter _ input _ => input.SourceKeyed reading records
  | rekey _ input _ => input.SourceKeyed reading records
  | join .. => False
  | aggregate .. => False
  | toStream _ input => input.SourceKeyed reading records

/-- Column `j` hands on the record key: it is the key column of the source or the column of
a rekey, passed on by bare references only. -/
def TracesKey : PlanNode → Nat → Prop
  | source head _, j => ∃ key, head.keyField = some key ∧ key.index = some j
  | project _ input projection, j => ∃ i, projection.Copies j i ∧ input.TracesKey i
  | filter _ input _, j => input.TracesKey j
  | rekey _ _ step, j => step.keyIndex = j
  | join .., _ => False
  | aggregate .., _ => False
  | toStream _ input, j => input.TracesKey j

end PlanNode

/-- A column that hands on the key of a chain reads like the record key, on every record
with a row that leaves the chain. -/
theorem Planner.KeyedChain.text_eq_of_tracesKey {planner : Planner} {node : PlanNode}
    (chain : planner.KeyedChain node) {reading : KeyReading} {records : List Record}
    (hsource : node.SourceKeyed reading records) {j : Nat} (htrace : node.TracesKey j) :
    ∀ record ∈ node.pipeline.run records, ∀ row, record.row = some row →
      (row.get j).text = reading.text record.key := by
  refine induct
    (motive := fun node => node.SourceKeyed reading records → ∀ j, node.TracesKey j →
      ∀ record ∈ node.pipeline.run records, ∀ row, record.row = some row →
        (row.get j).text = reading.text record.key)
    ?source ?project ?filter ?rekey chain hsource j htrace
  case source =>
    rintro id topic schema key format - - hsource j ⟨other, hkey, hindex⟩
    exact hsource other j hkey hindex
  case project =>
    rintro id input items compiled - - - ih hsource j ⟨i, hcopies, htrace⟩ record hrecord row hrow
    obtain ⟨before, hbefore, rfl⟩ := List.mem_map.1 hrecord
    obtain ⟨old, hold, rfl⟩ := Option.map_eq_some_iff.1 hrow
    rw [hcopies.get_applyRow]
    exact ih hsource i htrace before hbefore old hold
  case filter =>
    intro id input predicate _ ih hsource j htrace record hrecord row hrow
    exact ih hsource j htrace record (List.mem_filter.1 hrecord).1 row hrow
  case rekey =>
    -- The new key is the text of the column, whatever the old one was.
    intro id input name index keyIndex _ _ _ _ j htrace record hrecord row hrow
    obtain rfl : index = j := htrace
    obtain ⟨before, -, hrekeyed⟩ := List.mem_filterMap.1 hrecord
    obtain ⟨old, hold, rfl⟩ := Option.map_eq_some_iff.1 hrekeyed
    obtain rfl : old = row := Option.some.inj hrow
    rw [KeyReading.text_plain]
    rfl

/-! ## The name of the key -/

namespace PlanNode

/-- The column with the name of the key hands on the key. -/
def KeyNamed (node : PlanNode) : Prop :=
  ∀ key, node.keyField = some key →
    ∃ j, node.schema.indexOf? key.name = some j ∧ node.TracesKey j

/-- Every projection that keeps a key gives the column with the name of the key out under
that name; a rekey starts over. -/
def KeepsKeyName : PlanNode → Prop
  | source .. => True
  | project head input projection =>
    input.KeepsKeyName ∧ ∀ key, head.keyField = some key →
      ∃ i j, head.schema.indexOf? key.name = some i ∧
        input.schema.indexOf? key.name = some j ∧ projection.Copies i j
  | filter _ input _ => input.KeepsKeyName
  | rekey .. => True
  | join .. => False
  | aggregate .. => False
  | toStream _ input => input.KeepsKeyName

/-- The reference resolves to a column that hands on the key. -/
def MeansKey (node : PlanNode) (column : ColumnRef) : Prop :=
  ∃ j, node.schema.resolve column = .ok j ∧ node.TracesKey j

/-- A node is keyed by the name of its key. -/
theorem isKeyedBy_iff {node : PlanNode} {name : String} :
    node.isKeyedBy name = true ↔ ∃ key, node.keyField = some key ∧ key.name = name := by
  unfold isKeyedBy
  rcases node.keyField with _ | key
  · simp
  · simp

end PlanNode

/-- In a chain whose projections keep the name of the key, the column with that name hands
on the key. -/
theorem Planner.KeyedChain.keyNamed {planner : Planner} {node : PlanNode}
    (chain : planner.KeyedChain node) (hkeeps : node.KeepsKeyName) : node.KeyNamed := by
  refine induct (motive := fun node => node.KeepsKeyName → node.KeyNamed)
    ?source ?project ?filter ?rekey chain hkeeps
  case source =>
    intro id topic schema key format hindexed hchecks _ other hother
    obtain rfl : key = other := Option.some.inj hother
    obtain ⟨hnames, hcolumn⟩ := requireSource_eq_ok_iff.1 hchecks
    obtain ⟨i, hindex⟩ := KeyField.isSynthetic_eq_false_iff.1 hindexed
    have hfield := hcolumn key i rfl hindex
    exact ⟨i, Schema.indexOf?_of_distinct hnames hfield, key, rfl, hindex⟩
  case project =>
    rintro id input items compiled - - - ih ⟨hinput, hout⟩ newKey hnewKey
    obtain ⟨i, j, hi, hj, hcopies⟩ := hout newKey hnewKey
    rcases hkey : input.keyField with _ | key
    · change projectKey input.keyField items = some newKey at hnewKey
      rw [hkey] at hnewKey
      cases hnewKey
    · change projectKey input.keyField items = some newKey at hnewKey
      rw [hkey] at hnewKey
      obtain ⟨k, hk, htrace⟩ := ih hinput key hkey
      rw [name_of_projectKey hnewKey, hk] at hj
      obtain rfl : k = j := Option.some.inj hj
      exact ⟨i, hi, k, hcopies, htrace⟩
  case filter =>
    intro id input predicate _ ih hinput
    exact ih hinput
  case rekey =>
    intro id input name index keyIndex hindex chain _ _ key hkey
    obtain rfl := Option.some.inj hkey
    have hlt := Schema.resolve_lt_width (mapError_eq_ok_iff.1 hindex)
    exact ⟨index,
      Schema.indexOf?_of_distinct chain.nodup_names (Schema.getElem?_fieldAt hlt), rfl⟩

/-! ## Reuse -/

/-- A key serves the grouping on a single reference with its bare name. -/
theorem servesGrouping_iff {key : KeyField} {parts : List Expr} :
    servesGrouping key parts = true ↔
      ∃ column, parts = [.column column] ∧ column.name = key.unaliasedName := by
  constructor
  · intro h
    unfold servesGrouping at h
    split at h
    · rename_i only
      split at h
      · rename_i column hcolumn
        rw [Expr.asColumn?_eq_some_iff] at hcolumn
        exact ⟨column, by rw [hcolumn], by simpa using h⟩
      · cases h
    · cases h
  · rintro ⟨column, rfl, hname⟩
    simp [servesGrouping, Expr.asColumn?, hname]

namespace Planner

variable {planner : Planner} {node : PlanNode} {before after : Session}

/-- A grouping that a key serves keeps the partitioning and groups the records that leave the
node; any other repartitions. -/
theorem groupBy_cases {parts : List Expr} {encoding : String} {grouped : GroupedStream}
    (h : (planner.groupBy node parts encoding).exec before = (.ok grouped, after)) :
    (∃ key, node.keyField = some key ∧ servesGrouping key parts = true ∧
      grouped.isRepartitioned = false ∧ grouped.pipeline = node.pipeline) ∨
    ((∀ key, node.keyField = some key → servesGrouping key parts = false) ∧
      grouped.isRepartitioned = true) := by
  obtain ⟨draft, hdraft, rfl⟩ := exec_groupBy h
  obtain ⟨-, -, ⟨key, hkey, hserves, rfl⟩ | ⟨hother, hvalues⟩⟩ := draftGroup_eq_ok_iff.1 hdraft
  · exact Or.inl ⟨key, hkey, hserves, rfl, rfl⟩
  · unfold groupOnValues at hvalues
    obtain ⟨compiled, -, heq⟩ := bind_eq_ok_iff.1 hvalues
    obtain rfl := Except.ok.inj heq
    exact Or.inr ⟨hother, rfl⟩

/-- A grouping keeps the partitioning exactly when it is on a single reference with the bare
name of the key. -/
theorem not_isRepartitioned_iff {parts : List Expr} {encoding : String} {grouped : GroupedStream}
    (h : (planner.groupBy node parts encoding).exec before = (.ok grouped, after)) :
    grouped.isRepartitioned = false ↔ ∃ key column, node.keyField = some key ∧
      parts = [.column column] ∧ column.name = key.unaliasedName := by
  rcases groupBy_cases h with ⟨key, hkey, hserves, hkept, -⟩ | ⟨hother, hmoved⟩
  · obtain ⟨column, hparts, hname⟩ := servesGrouping_iff.1 hserves
    exact iff_of_true hkept ⟨key, column, hkey, hparts, hname⟩
  · refine iff_of_false (by simp [hmoved]) ?_
    rintro ⟨key, column, hkey, hparts, hname⟩
    have hserves := servesGrouping_iff.2 ⟨column, hparts, hname⟩
    rw [hother key hkey] at hserves
    cases hserves

/-- A rekey that returns its input was asked for the name of the key. -/
theorem isKeyedBy_of_rekey_unchanged {request : KeyField} {updateRowKey : Bool}
    (h : (planner.rekey node request updateRowKey).exec before = (.ok node, after)) :
    node.isKeyedBy request.name = true := by
  rcases exec_rekey_eq_ok_iff.1 h with ⟨hkeyed, -⟩ | ⟨-, -, rekey, -, hnode, -⟩
  · exact hkeyed
  · -- A node that is made has the input below it.
    have hsize := congrArg sizeOf hnode
    simp only [rekeyedNode, PlanNode.rekey.sizeOf_spec] at hsize
    omega

/-- The reference compiles, and on every record with a row that leaves the pipeline its
value reads like the record key. -/
def ReadsAsKey (planner : Planner) (node : PlanNode) (pipeline : Pipeline)
    (column : ColumnRef) : Prop :=
  ∃ compiled, (Expr.column column).compile node.schema planner.functions = .ok compiled ∧
    ∀ reading records, node.SourceKeyed reading records →
      ∀ record ∈ pipeline.run records, ∀ row, record.row = some row →
        ∃ v, compiled.evaluate row = .ok v ∧ v.text = reading.text record.key

/-- A reference that means the key reads like the record key. -/
theorem KeyedChain.readsAsKey_of_meansKey (chain : planner.KeyedChain node)
    {column : ColumnRef} (hmeans : node.MeansKey column) :
    planner.ReadsAsKey node node.pipeline column := by
  obtain ⟨j, hresolve, htrace⟩ := hmeans
  refine ⟨_, Expr.compile_column_eq_ok_iff.2 ⟨j, hresolve, rfl⟩, ?_⟩
  intro reading records hsource record hrecord row hrow
  refine ⟨row.get j, ?_, chain.text_eq_of_tracesKey hsource htrace record hrecord row hrow⟩
  rw [CompiledExpr.evaluate, TypedExpr.evaluate_column]

/-- Where the column with the name of the key hands on the key and no name has a dot, a
reference with the bare name of the key means the key. -/
theorem KeyedChain.meansKey_of_dotFree (chain : planner.KeyedChain node)
    (hnamed : node.KeyNamed) (hfree : node.schema.DotFree) {key : KeyField}
    (hkey : node.keyField = some key) {column : ColumnRef}
    (hname : column.name = key.unaliasedName) : node.MeansKey column := by
  obtain ⟨j, hj, htrace⟩ := hnamed key hkey
  obtain ⟨field, hfield, hfieldName⟩ := Schema.indexOf?_eq_some hj
  have hdot := hfree _ (Schema.name_mem_names hfield)
  rw [hfieldName] at hdot
  rw [KeyField.unaliasedName, stripAlias, splitAlias_of_dotFree hdot] at hname
  exact ⟨j, Schema.resolve_of_dotFree chain.nodup_names hfree (hname ▸ hj), htrace⟩

/-- What a grouping that keeps the partitioning of a node is on, and when its values are the
record keys. -/
structure KeepsPartitioning (planner : Planner) (node : PlanNode) (key : KeyField)
    (column : ColumnRef) (pipeline : Pipeline) : Prop where
  /-- The node has the key. -/
  keyed : node.keyField = some key
  /-- The grouping is on a reference with the bare name of the key. -/
  named : column.name = key.unaliasedName
  /-- Where the reference means the key it reads like the record key. -/
  reads : node.MeansKey column → planner.ReadsAsKey node pipeline column
  /-- It means the key where the column with the name of the key hands on the key, if no name
  has a dot. -/
  dotFree : node.KeyNamed → node.schema.DotFree → node.MeansKey column
  /-- So it does, whatever the names, if it spells out no other field, contradicts no alias and
  is not ambiguous. -/
  means : node.KeyNamed → key.MeantBy node.schema column → node.MeansKey column
  /-- Only then is it resolved to the column with the name of the key. -/
  resolves_iff : ∀ j, node.schema.indexOf? key.name = some j →
    (node.schema.resolve column = .ok j ↔ key.MeantBy node.schema column)

/-- What a rekey that returns its input was asked for, and when that is the record key. -/
structure KeepsKey (planner : Planner) (node : PlanNode) (name : String) : Prop where
  /-- The name is that of the key. -/
  keyed : ∃ key, node.keyField = some key ∧ key.name = name
  /-- Where the name means the key it reads like the record key. -/
  reads : node.MeansKey (.ofName name) → planner.ReadsAsKey node node.pipeline (.ofName name)
  /-- It means the key where the column with the name of the key hands on the key. -/
  means : node.KeyNamed → node.MeansKey (.ofName name)

/-- The reuse of a key in a chain of projections, filters and rekeys.  A grouping keeps the
partitioning exactly when it is on a single reference with the bare name of the key, and a
rekey that returns its input was asked for the name of the key.  Where the reference or the
name means the key, it reads like the record key; and the column with the name of the key
hands on the key as long as the projections keep the name. -/
theorem KeyedChain.reuse_sound (chain : planner.KeyedChain node) :
    (∀ parts encoding before after grouped,
      (planner.groupBy node parts encoding).exec before = (.ok grouped, after) →
      (grouped.isRepartitioned = false ↔ ∃ key column, node.keyField = some key ∧
        parts = [.column column] ∧ column.name = key.unaliasedName) ∧
      (grouped.isRepartitioned = false → ∃ key column, parts = [.column column] ∧
        planner.KeepsPartitioning node key column grouped.pipeline)) ∧
    (∀ request updateRowKey before after,
      (planner.rekey node request updateRowKey).exec before = (.ok node, after) →
      planner.KeepsKey node request.name) ∧
    (node.KeepsKeyName → node.KeyNamed) := by
  refine ⟨?grouping, ?rekey, chain.keyNamed⟩
  case grouping =>
    intro parts encoding before after grouped hgrouped
    refine ⟨not_isRepartitioned_iff hgrouped, fun hkept => ?_⟩
    obtain ⟨key, hkey, hserves, -, hpipeline⟩ :=
      (groupBy_cases hgrouped).resolve_right (by simp [hkept])
    obtain ⟨column, hparts, hname⟩ := servesGrouping_iff.1 hserves
    have hresolves {j : Nat} (hj : node.schema.indexOf? key.name = some j) :=
      KeyField.resolve_iff_meantBy chain.nodup_names hj hname
    refine ⟨key, column, hparts, hkey, hname, ?_, ?_, ?_, fun j hj => hresolves hj⟩
    · intro hmeans
      rw [hpipeline]
      exact chain.readsAsKey_of_meansKey hmeans
    · intro hnamed hfree
      exact chain.meansKey_of_dotFree hnamed hfree hkey hname
    · intro hnamed hmeant
      obtain ⟨j, hj, htrace⟩ := hnamed key hkey
      exact ⟨j, (hresolves hj).2 hmeant, htrace⟩
  case rekey =>
    intro request updateRowKey before after hunchanged
    have hkeyed := PlanNode.isKeyedBy_iff.1 (isKeyedBy_of_rekey_unchanged hunchanged)
    refine ⟨hkeyed, chain.readsAsKey_of_meansKey, fun hnamed => ?_⟩
    obtain ⟨key, hkey, hname⟩ := hkeyed
    obtain ⟨j, hj, htrace⟩ := hnamed key hkey
    exact ⟨j, Schema.resolve_ofName (hname ▸ hj), htrace⟩

/-! ## A stream of orders -/

/-- A stream of orders under their row key. -/
def orders : PlanNode :=
  .source
    ⟨⟨0⟩, ⟨[⟨"ROWKEY", .utf8⟩, ⟨"ORDERID", .int32⟩]⟩, some ⟨"ROWKEY", some 0, .utf8⟩, .plain,
      ⟨.stream, .source⟩⟩
    "orders"

/-- The stream of orders is a chain. -/
theorem keyedChain_orders : standard.KeyedChain orders :=
  .source rfl
    (show (standard.sourceStream "orders" orders.schema orders.keyField .plain).exec .empty =
      (.ok orders, _) from rfl)

/-- The orders with their columns exchanged. -/
theorem reuse_sound_exchanged :
    ∃ node grouped after, standard.KeyedChain node ∧
      (standard.groupBy node [.column ⟨some "O", "ROWKEY"⟩] "json").exec .empty =
        (.ok grouped, after) ∧
      grouped.isRepartitioned = false ∧ node.schema.names = ["ORDERID", "ROWKEY"] ∧
      standard.ReadsAsKey node grouped.pipeline ⟨some "O", "ROWKEY"⟩ := by
  have hselect : ∃ node after, (standard.select orders
      [⟨"ORDERID", .column ⟨none, "ORDERID"⟩⟩, ⟨"ROWKEY", .column ⟨none, "ROWKEY"⟩⟩]).exec
        .empty = (.ok node, after) ∧ node.schema.names = ["ORDERID", "ROWKEY"] ∧
      node.KeepsKeyName ∧ ∃ grouped after,
        (standard.groupBy node [.column ⟨some "O", "ROWKEY"⟩] "json").exec .empty =
          (.ok grouped, after) ∧ grouped.isRepartitioned = false := by
    refine ⟨_, _, rfl, rfl, ⟨trivial, ?_⟩, _, _, rfl, rfl⟩
    rintro key hkey
    obtain rfl := Option.some.inj hkey
    exact ⟨1, 0, rfl, rfl, _, _, rfl, _, rfl⟩
  obtain ⟨node, after, hreturned, hnames, hkeeps, grouped, last, hgrouped, hreused⟩ := hselect
  have hchain : standard.KeyedChain node := .select keyedChain_orders hreturned
  have hfree : node.schema.DotFree := by
    rw [Schema.DotFree, hnames]
    decide
  obtain ⟨-, hkept⟩ := hchain.reuse_sound.1 _ _ _ _ _ hgrouped
  obtain ⟨key, column, hparts, hserved⟩ := hkept hreused
  obtain rfl : ColumnRef.mk (some "O") "ROWKEY" = column := by
    simpa using hparts
  exact ⟨node, grouped, last, hchain, hgrouped, hreused, hnames,
    hserved.reads (hserved.dotFree (hchain.keyNamed hkeeps) hfree)⟩

/-- An order under its row key. -/
def firstOrder : Record := ⟨.plain (.utf8 "a"), some ⟨[.utf8 "a", .int32 7]⟩⟩

/-- Its key is the value in the first column, so a source keyed by that column is keyed by it. -/
theorem sourceKeyed_firstOrder {head : NodeHead} {topic : String} {key : KeyField}
    (hkey : head.keyField = some key) (hindex : key.index = some 0) :
    (PlanNode.source head topic).SourceKeyed .whole [firstOrder] := by
  intro other i hother hi record hrecord row hrow
  obtain rfl : key = other := Option.some.inj (hkey.symm.trans hother)
  obtain rfl : 0 = i := Option.some.inj (hindex.symm.trans hi)
  obtain rfl := List.mem_singleton.1 hrecord
  obtain rfl := Option.some.inj hrow
  rfl

/-- A grouping on the reference keeps the partitioning, and on a record that reaches it the
value is another than the record key. -/
def Misreads (planner : Planner) (node : PlanNode) (records : List Record) (column : ColumnRef)
    (v : Value) : Prop :=
  ∃ grouped after compiled,
    (planner.groupBy node [.column column] "json").exec .empty = (.ok grouped, after) ∧
    grouped.isRepartitioned = false ∧
    (Expr.column column).compile node.schema planner.functions = .ok compiled ∧
    node.SourceKeyed .whole records ∧
    ∃ record ∈ grouped.pipeline.run records, ∃ row, record.row = some row ∧
      compiled.evaluate row = .ok v ∧ v ≠ .null ∧ v.text ≠ KeyReading.whole.text record.key

/-- A grouping on the reference keeps the partitioning although the reference is refused. -/
def Unresolved (planner : Planner) (node : PlanNode) (column : ColumnRef) (e : TypingFault) :
    Prop :=
  ∃ grouped after,
    (planner.groupBy node [.column column] "json").exec .empty = (.ok grouped, after) ∧
    grouped.isRepartitioned = false ∧ node.schema.resolve column = .error (.typing e)

/-- A stream with two columns of one bare name, under the first of them. -/
def pairs : PlanNode :=
  .source
    ⟨⟨0⟩, ⟨[⟨"O.ID", .utf8⟩, ⟨"P.ID", .int32⟩]⟩, some ⟨"O.ID", some 0, .utf8⟩, .plain,
      ⟨.stream, .source⟩⟩
    "pairs"

/-- The stream of pairs is a chain. -/
theorem keyedChain_pairs : standard.KeyedChain pairs :=
  .source rfl
    (show (standard.sourceStream "pairs" pairs.schema pairs.keyField .plain).exec .empty =
      (.ok pairs, _) from rfl)

/-- The column with the name of the key of the pairs hands on the key. -/
theorem keyNamed_pairs : pairs.KeyNamed :=
  keyedChain_pairs.keyNamed trivial

/-- A grouping on the bare name of the key reuses the key whatever the reference means.  Where
the name of the key was given to another column, the value is not the record key; where the
key was given another name, the name means nothing.  And where the column with that name does
hand on the key, a reference misses it that contradicts its alias, spells out the name of
another column or might mean another one. -/
theorem not_reuse_sound :
    (∃ renamed dropped, standard.KeyedChain renamed ∧ standard.KeyedChain dropped ∧
      standard.Misreads renamed [firstOrder] ⟨none, "ROWKEY"⟩ (.int32 7) ∧
      (standard.rekey renamed ⟨"ROWKEY", some 0, .int32⟩ false).exec .empty =
        (.ok renamed, .empty) ∧
      standard.Unresolved dropped ⟨none, "ROWKEY"⟩ (.unknownColumn "ROWKEY")) ∧
    ∃ joined shadowed, standard.KeyedChain joined ∧ joined.KeyNamed ∧
      standard.KeyedChain shadowed ∧ shadowed.KeyNamed ∧
      standard.Misreads joined [firstOrder] ⟨some "P", "ID"⟩ (.int32 7) ∧
      standard.Unresolved joined ⟨none, "ID"⟩ (.ambiguousColumn "ID") ∧
      standard.Misreads shadowed [firstOrder] ⟨none, "ID"⟩ (.int32 7) := by
  have hordersKeyed : orders.SourceKeyed .whole [firstOrder] := sourceKeyed_firstOrder rfl rfl
  have hpairsKeyed : pairs.SourceKeyed .whole [firstOrder] := sourceKeyed_firstOrder rfl rfl
  constructor
  · refine ⟨_, _, .select keyedChain_orders
      (show (standard.select orders
        [⟨"ROWKEY", .column ⟨none, "ORDERID"⟩⟩, ⟨"OLD", .column ⟨none, "ROWKEY"⟩⟩]).exec
          .empty = (.ok _, _) from rfl),
      .select keyedChain_orders
        (show (standard.select orders [⟨"K", .column ⟨none, "ROWKEY"⟩⟩]).exec .empty =
          (.ok _, _) from rfl), ?_, rfl, _, _, rfl, rfl, rfl⟩
    exact ⟨_, _, _, rfl, rfl, rfl, hordersKeyed,
      ⟨.plain (.utf8 "a"), some ⟨[.int32 7, .utf8 "a"]⟩⟩, List.mem_singleton_self _, _, rfl,
      rfl, by decide, by decide⟩
  · have hshadowed : ∃ node after, (standard.select pairs
        [⟨"ID", .column ⟨some "P", "ID"⟩⟩, ⟨"O.ID", .column ⟨some "O", "ID"⟩⟩]).exec .empty =
          (.ok node, after) ∧ node.KeepsKeyName ∧
        standard.Misreads node [firstOrder] ⟨none, "ID"⟩ (.int32 7) := by
      refine ⟨_, _, rfl, ⟨trivial, ?_⟩, _, _, _, rfl, rfl, rfl, hpairsKeyed,
        ⟨.plain (.utf8 "a"), some ⟨[.int32 7, .utf8 "a"]⟩⟩, List.mem_singleton_self _, _, rfl,
        rfl, by decide, by decide⟩
      rintro key hkey
      obtain rfl := Option.some.inj hkey
      exact ⟨1, 0, rfl, rfl, _, _, rfl, _, rfl⟩
    obtain ⟨shadowed, after, hreturned, hkeeps, hmisreads⟩ := hshadowed
    have hchain : standard.KeyedChain shadowed := .select keyedChain_pairs hreturned
    refine ⟨pairs, shadowed, keyedChain_pairs, keyNamed_pairs, hchain, hchain.keyNamed hkeeps,
      ?_, ⟨_, _, rfl, rfl, rfl⟩, hmisreads⟩
    exact ⟨_, _, _, rfl, rfl, rfl, hpairsKeyed, firstOrder, List.mem_singleton_self _, _,
      rfl, rfl, by decide, by decide⟩

end Planner

end StreamPlan
