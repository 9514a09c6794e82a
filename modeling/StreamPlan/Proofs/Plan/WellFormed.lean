import StreamPlan.Proofs.Plan.KeyPropagation
import StreamPlan.Proofs.Plan.Numbering

/-!
# Well-formed plans

Over a whole run of calls a plan stays well formed: numbers are given in order and only
downstream, an indexed key is a column of its node, and only windowed sources give windowed
keys, which a rekey or a grouping on values takes away.

Main results:

- `NodeCall.keyInside`: what one call passes on of keys inside schemas.
- `NodeCall.windowed_iff`: what one call passes on of windows.
- `Planner.WellFormedRun`, `Planner.wellFormedRun`: the plan of a run.
-/

namespace StreamPlan

/-! ## Keys inside schemas -/

/-- If the key of a node is a column, it is one of the schema. -/
def PlanNode.KeyInside (node : PlanNode) : Prop :=
  ∀ key i, node.keyField = some key → key.index = some i → i < node.schema.width

/-- If the key of a projection is a column, it is one of the projected schema. -/
theorem lt_width_of_projectKey {schema : Schema} {functions : Registry}
    {items : List SelectItem} {compiled : List CompiledExpr} {key : Option KeyField}
    {newKey : KeyField} {i : Nat}
    (hcompiled :
      Expr.compileAll "Select" schema functions (items.map (·.expr)) = .ok compiled)
    (h : projectKey key items = some newKey) (hindex : newKey.index = some i) :
    i < (Schema.mk (Projection.ofItems items compiled).fields).width := by
  obtain ⟨old, rfl⟩ : ∃ old, key = some old := by
    cases key with
    | none => cases h
    | some old => exact ⟨old, rfl⟩
  rcases hsynthetic : old.isSynthetic with _ | _
  · obtain ⟨j, rfl, ⟨column, hreference, -⟩, -⟩ := (projectKey_eq_some_iff hsynthetic).1 h
    obtain rfl : j = i := Option.some.inj hindex
    obtain ⟨_, -, ⟨name, c, hcolumn, -⟩, -⟩ := copies_of_reference hcompiled hreference
    rw [Schema.width, Projection.fields, List.length_map]
    exact (List.getElem?_eq_some_iff.1 hcolumn).1
  · rw [projectKey_of_synthetic hsynthetic] at h
    obtain rfl := Option.some.inj h
    rw [KeyField.isSynthetic, hindex] at hsynthetic
    cases hsynthetic

/-- An indexed key of a source is one of its columns. -/
theorem lt_width_of_requireSource {schema : Schema} {key : KeyField} {i : Nat}
    (h : requireSource schema (some key) = .ok ()) (hindex : key.index = some i) :
    i < schema.width :=
  (List.getElem?_eq_some_iff.1 ((requireSource_eq_ok_iff.1 h).2 key i rfl hindex)).1

/-- The key of a join is the requested one, and one of its columns if it is indexed. -/
theorem joinKey_eq_ok_iff {request : JoinRequest} {key : KeyField} :
    Planner.joinKey request = .ok key ↔
      request.keyField = some key ∧ ∀ i, key.index = some i → i < request.schema.width := by
  unfold Planner.joinKey
  rcases request.keyField with _ | requested
  · simp
  · rw [ite_error_eq_ok_iff, Except.ok.injEq, Option.some.injEq]
    constructor
    · rintro ⟨hinside, rfl⟩
      refine ⟨rfl, fun i hindex => ?_⟩
      rw [hindex] at hinside
      simpa using hinside
    · rintro ⟨rfl, hinside⟩
      refine ⟨?_, rfl⟩
      rcases hindex : requested.index with _ | i
      · simp
      · simpa using hinside i hindex

/-- If the keys of the inputs of a call are inside their schemas, so is that of its node. -/
theorem NodeCall.keyInside {planner : Planner} {call : NodeCall} {node : PlanNode}
    (hinputs : ∀ input ∈ call.inputs, input.KeyInside) (hmakes : call.Makes planner node) :
    node.KeyInside := by
  obtain ⟨draft, id, hdraft, rfl⟩ := hmakes
  cases call with
  | source form topic schema key format =>
    obtain ⟨hchecks, rfl⟩ := Planner.draftSource_eq_ok_iff.1 hdraft
    intro k i hkey hindex
    obtain rfl : key = some k := hkey
    exact lt_width_of_requireSource hchecks hindex
  | select input items =>
    obtain ⟨compiled, hcompiled, -, rfl⟩ := Planner.draftSelect_eq_ok_iff.1 hdraft
    exact fun k i hkey hindex => lt_width_of_projectKey hcompiled hkey hindex
  | filter input e =>
    obtain ⟨predicate, -, rfl⟩ := Planner.draftFilter_eq_ok_iff.1 hdraft
    exact hinputs input (List.mem_singleton_self input)
  | rekey input key updateRowKey =>
    obtain ⟨-, index, rowKeyIndex, hresolve, -, rfl⟩ := Planner.draftRekey_eq_ok_iff.1 hdraft
    intro k i hkey hindex
    obtain rfl := Option.some.inj hkey
    obtain ⟨_, -, rfl⟩ := Option.map_eq_some_iff.1 hindex
    exact Schema.resolve_lt_width (mapError_eq_ok_iff.1 hresolve)
  | join left right request =>
    obtain ⟨-, -, key, engineCall, hkey, -, rfl⟩ := Planner.draftJoin_eq_ok_iff.1 hdraft
    intro k i hsome hindex
    obtain rfl := Option.some.inj hsome
    exact (joinKey_eq_ok_iff.1 hkey).2 i hindex
  | aggregate grouped items =>
    obtain ⟨compiled, aggregator, -, -, -, rfl⟩ := Planner.draftAggregate_eq_ok_iff.1 hdraft
    intro k i hkey hindex
    obtain rfl := Option.some.inj hkey
    obtain rfl : 0 = i := Option.some.inj hindex
    exact Nat.succ_pos _
  | toStream input =>
    obtain ⟨-, rfl⟩ := Planner.draftToStream_eq_ok_iff.1 hdraft
    exact hinputs input (List.mem_singleton_self input)

/-! ## Windows -/

/-- A chain of first inputs leads from a node to a windowed source; no rekey and no grouping
on values lies on it. -/
def PlanNode.FromWindowedSource : PlanNode → Prop
  | source head _ => head.keyFormat = .windowed
  | project _ input _ => input.FromWindowedSource
  | filter _ input _ => input.FromWindowedSource
  | rekey .. => False
  | join _ left .. => left.FromWindowedSource
  | aggregate _ input groupKey _ => groupKey = none ∧ input.FromWindowedSource
  | toStream _ input => input.FromWindowedSource

/-- A grouping on the key has the key format of its node, and one on values a plain one. -/
theorem GroupedStream.Drafted.keyFormat_eq {planner : Planner} {grouped : GroupedStream}
    (h : grouped.Drafted planner) :
    grouped.keyFormat = .windowed ↔
      grouped.groupKey = none ∧ grouped.source.keyFormat = .windowed := by
  obtain ⟨input, parts, encoding, draft, hdraft, rfl⟩ := h
  obtain ⟨-, -, ⟨key, -, -, rfl⟩ | ⟨-, hvalues⟩⟩ := Planner.draftGroup_eq_ok_iff.1 hdraft
  · exact (and_iff_right rfl).symm
  · unfold Planner.groupOnValues at hvalues
    obtain ⟨compiled, -, heq⟩ := bind_eq_ok_iff.1 hvalues
    obtain rfl := Except.ok.inj heq
    refine iff_of_false ?_ ?_
    · intro hformat
      cases hformat
    · rintro ⟨hkey, -⟩
      cases hkey

/-- If the inputs of a call are windowed exactly when they come from windowed sources, then so
is its node. -/
theorem NodeCall.windowed_iff {planner : Planner} {call : NodeCall} {node : PlanNode}
    (hdrafted : call.OnDrafted planner)
    (hinputs : ∀ input ∈ call.inputs,
      input.keyFormat = .windowed ↔ input.FromWindowedSource)
    (hmakes : call.Makes planner node) :
    node.keyFormat = .windowed ↔ node.FromWindowedSource := by
  obtain ⟨draft, id, hdraft, rfl⟩ := hmakes
  cases call with
  | source form topic schema key format =>
    obtain ⟨-, rfl⟩ := Planner.draftSource_eq_ok_iff.1 hdraft
    exact Iff.rfl
  | select input items =>
    obtain ⟨_, -, -, rfl⟩ := Planner.draftSelect_eq_ok_iff.1 hdraft
    exact hinputs input (List.mem_singleton_self input)
  | filter input e =>
    obtain ⟨_, -, rfl⟩ := Planner.draftFilter_eq_ok_iff.1 hdraft
    exact hinputs input (List.mem_singleton_self input)
  | rekey input key updateRowKey =>
    obtain ⟨-, _, _, -, -, rfl⟩ := Planner.draftRekey_eq_ok_iff.1 hdraft
    refine iff_of_false ?_ not_false
    intro hformat
    cases hformat
  | join left right request =>
    obtain ⟨-, -, _, _, -, -, rfl⟩ := Planner.draftJoin_eq_ok_iff.1 hdraft
    exact hinputs left List.mem_cons_self
  | aggregate grouped items =>
    obtain ⟨_, _, -, -, -, rfl⟩ := Planner.draftAggregate_eq_ok_iff.1 hdraft
    have hsource := hinputs grouped.source (List.mem_singleton_self _)
    exact hdrafted.keyFormat_eq.trans (and_congr_right' hsource)
  | toStream input =>
    obtain ⟨-, rfl⟩ := Planner.draftToStream_eq_ok_iff.1 hdraft
    exact hinputs input (List.mem_singleton_self input)

/-! ## Single calls -/

/-- A node has the schema, the key and the key format of another. -/
def PlanNode.DescribedAs (node other : PlanNode) : Prop :=
  node.schema = other.schema ∧ node.keyField = other.keyField ∧
    node.keyFormat = other.keyFormat

namespace Planner

variable {planner : Planner} {input node : PlanNode} {before after : Session}

/-- A filter keeps the schema, the key and the key format. -/
theorem describedAs_of_exec_filter {e : Expr}
    (h : (planner.filter input e).exec before = (.ok node, after)) : node.DescribedAs input := by
  obtain ⟨draft, hdraft, -, rfl, -⟩ := exec_carryOut_eq_ok_iff.1 h
  obtain ⟨predicate, -, rfl⟩ := draftFilter_eq_ok_iff.1 hdraft
  exact ⟨rfl, rfl, rfl⟩

/-- The changes of a table keep the schema, the key and the key format. -/
theorem describedAs_of_exec_toStream
    (h : (planner.toStream input).exec before = (.ok node, after)) : node.DescribedAs input := by
  obtain ⟨draft, hdraft, -, rfl, -⟩ := exec_carryOut_eq_ok_iff.1 h
  obtain ⟨-, rfl⟩ := draftToStream_eq_ok_iff.1 hdraft
  exact ⟨rfl, rfl, rfl⟩

/-- A rekey returns its input if that has the key, and otherwise a new stream under a plain
key. -/
theorem plain_of_exec_rekey {key : KeyField} {updateRowKey : Bool}
    (h : (planner.rekey input key updateRowKey).exec before = (.ok node, after)) :
    (input.isKeyedBy key.name = true ∧ node = input ∧ after = before) ∨
      (input.isKeyedBy key.name = false ∧ node.id = ⟨before.nextId⟩ ∧
        node.kind = .rekey ∧ node.keyFormat = .plain ∧ node.form = .stream) := by
  rcases exec_rekey_eq_ok_iff.1 h with hunchanged | ⟨hkeyed, -, rekey, -, rfl, -⟩
  · exact Or.inl hunchanged
  · exact Or.inr ⟨eq_false_of_ne_true hkeyed, rfl, rfl, rfl, rfl⟩

/-! ## Whole runs -/

/-- The plan of a run of calls is well formed. -/
structure WellFormedRun (planner : Planner) (calls : List PlanCall) : Prop where
  /-- The nodes have the numbers 0, 1, 2 and so on, in the order in which they are built, and
  no other call uses up a number. -/
  numbered : (planner.builtBy .start calls).map (·.id.index) =
    List.range (calls.foldl planner.advance .start).session.nextId
  /-- The nodes that are returned are those that are built. -/
  returned : ∀ node, node ∈ (calls.foldl planner.advance .start).nodes ↔
    node ∈ planner.builtBy .start calls
  /-- A number stands for one node. -/
  identified : ∀ a ∈ (calls.foldl planner.advance .start).nodes,
    ∀ b ∈ (calls.foldl planner.advance .start).nodes, a.id.index = b.id.index → a = b
  /-- The nodes upstream of a node are of the plan, and have smaller numbers. -/
  upstream : ∀ node ∈ (calls.foldl planner.advance .start).nodes, ∀ above : PlanNode,
    above.Upstream node →
    above ∈ (calls.foldl planner.advance .start).nodes ∧ above.id.index < node.id.index
  /-- An indexed key is inside the schema. -/
  keyInside : ∀ node ∈ (calls.foldl planner.advance .start).nodes, node.KeyInside
  /-- Keys are windowed from windowed sources on, up to a rekey or a grouping on values. -/
  windowed : ∀ node ∈ (calls.foldl planner.advance .start).nodes,
    node.keyFormat = .windowed ↔ node.FromWindowedSource
  /-- A filter keeps the schema, the key and the key format. -/
  filter : ∀ {input node : PlanNode} {e : Expr} {before after : Session},
    (planner.filter input e).exec before = (.ok node, after) → node.DescribedAs input
  /-- The changes of a table keep the schema, the key and the key format. -/
  toStream : ∀ {input node : PlanNode} {before after : Session},
    (planner.toStream input).exec before = (.ok node, after) → node.DescribedAs input
  /-- A rekey returns its input if that has the key, and otherwise a new stream under a plain
  key. -/
  rekey : ∀ {input node : PlanNode} {key : KeyField} {updateRowKey : Bool}
    {before after : Session},
    (planner.rekey input key updateRowKey).exec before = (.ok node, after) →
    (input.isKeyedBy key.name = true ∧ node = input ∧ after = before) ∨
      (input.isKeyedBy key.name = false ∧ node.id = ⟨before.nextId⟩ ∧
        node.kind = .rekey ∧ node.keyFormat = .plain ∧ node.form = .stream)

/-- The plan of every run is well formed. -/
theorem wellFormedRun {calls : List PlanCall} (h : planner.CallsOn .start calls) :
    planner.WellFormedRun calls := by
  have hreaches : planner.Reaches (calls.foldl planner.advance .start) := Reaches.start.foldl h
  obtain ⟨hindices, hnext⟩ := @indices_builtBy planner .start calls
  have hreturned : ∀ node, node ∈ (calls.foldl planner.advance .start).nodes ↔
      node ∈ planner.builtBy .start calls := by
    intro node
    rw [Reaches.start.mem_nodes_foldl_iff h]
    exact or_iff_right List.not_mem_nil
  refine
    { numbered := ?_
      returned := hreturned
      identified := fun a ha b hb =>
        eq_of_index_eq ((hreturned a).1 ha) ((hreturned b).1 hb)
      upstream := fun node hnode above habove => hreaches.mem_and_lt_of_upstream hnode habove
      keyInside := hreaches.forall_nodes fun _ _ => NodeCall.keyInside
      windowed := hreaches.forall_nodes_drafted fun _ _ => NodeCall.windowed_iff
      filter := describedAs_of_exec_filter
      toStream := describedAs_of_exec_toStream
      rekey := plain_of_exec_rekey }
  rw [hindices, hnext, List.range_eq_range', History.start, Session.empty, Nat.zero_add]

/-- Windowed orders. -/
def windowedOrders : PlanNode :=
  .source ⟨⟨0⟩, ⟨[⟨"ID", .utf8⟩, ⟨"AMOUNT", .int32⟩]⟩, some ⟨"ID", some 0, .utf8⟩, .windowed,
    ⟨.stream, .source⟩⟩ "orders"

/-- The calls that read windowed orders, rekey them by the key they have, group them on it,
aggregate them, and rekey them by another column. -/
def windowedCalls : List PlanCall :=
  [.node (.source .stream "orders" windowedOrders.schema windowedOrders.keyField .windowed),
    .node (.rekey windowedOrders ⟨"ID", none, .utf8⟩ false),
    .groupBy windowedOrders [.column ⟨none, "ID"⟩] "json",
    .node (.aggregate ⟨windowedOrders, ⟨"ID", some 0, .utf8⟩, .windowed, none, .source⟩ []),
    .node (.rekey windowedOrders ⟨"AMOUNT", none, .int32⟩ false)]

/-- Of these calls, the first, the aggregation and the second rekey build nodes; the aggregate
is windowed, and the rekeyed stream is not. -/
theorem wellFormedRun_windowedCalls :
    standard.CallsOn .start windowedCalls ∧
      (standard.builtBy .start windowedCalls).map (·.id.index) = [0, 1, 2] ∧
      (standard.builtBy .start windowedCalls).map (·.keyFormat) = [.windowed, .windowed, .plain] ∧
      standard.WellFormedRun windowedCalls := by
  have hcalls : standard.CallsOn .start windowedCalls := by
    refine ⟨?_, ?_, List.mem_cons_self, List.mem_cons_self, ?_, trivial⟩
    · intro input hinput
      cases hinput
    · intro input hinput
      obtain rfl := List.mem_singleton.1 hinput
      exact List.mem_cons_self
    · intro input hinput
      obtain rfl := List.mem_singleton.1 hinput
      exact List.mem_cons_self
  have hplan := wellFormedRun hcalls
  exact ⟨hcalls, hplan.numbered, rfl, hplan⟩

end Planner

end StreamPlan
