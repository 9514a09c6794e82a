import Mathlib.Data.List.Nodup
import StreamPlan.Proofs.Plan.Run

/-!
# Distinct names

Sources, projections and aggregations refuse schemas with repeated names, and filters,
rekeys and changes of tables keep the schema they have.  A join puts two schemas next to
each other and checks no names, so the names of a node are distinct exactly when no join
that reaches it has a name on both sides.

Main results:

- `Schema.nodup_names_append`: names of two schemas next to each other.
- `PlanNode.JoinsApart`: the joins that reach a node have no name on both sides.
- `NodeCall.nodup_iff_joinsApart`: what one call passes on.
- `Planner.Reaches.nodup_names_iff_joinsApart`: the nodes of a run with distinct names.
-/

namespace StreamPlan

/-- Next to each other, two schemas have distinct names when each has and none is common. -/
theorem Schema.nodup_names_append {left right : Schema} :
    (left.append right).names.Nodup ↔
      left.names.Nodup ∧ right.names.Nodup ∧ ∀ name ∈ left.names, name ∉ right.names := by
  have happend : (left.append right).names = left.names ++ right.names := List.map_append
  rw [happend, List.nodup_append']
  rfl

/-- The joins that reach a node, without a projection or an aggregation between, have no
name on both sides. -/
def PlanNode.JoinsApart : PlanNode → Prop
  | source .. => True
  | project .. => True
  | filter _ input _ => input.JoinsApart
  | rekey _ input _ => input.JoinsApart
  | join _ left right .. =>
    left.JoinsApart ∧ right.JoinsApart ∧
      ∀ name ∈ left.schema.names, name ∉ right.schema.names
  | aggregate .. => True
  | toStream _ input => input.JoinsApart

/-- If the inputs of a call have distinct names exactly when their joins have no name on
both sides, then so has its node. -/
theorem NodeCall.nodup_iff_joinsApart {planner : Planner} {call : NodeCall} {node : PlanNode}
    (hinputs : ∀ input ∈ call.inputs, input.schema.names.Nodup ↔ input.JoinsApart)
    (hmakes : call.Makes planner node) : node.schema.names.Nodup ↔ node.JoinsApart := by
  obtain ⟨draft, id, hdraft, rfl⟩ := hmakes
  cases call with
  | source form topic schema key format =>
    obtain ⟨hchecks, rfl⟩ := Planner.draftSource_eq_ok_iff.1 hdraft
    exact iff_of_true (requireSource_eq_ok_iff.1 hchecks).1 trivial
  | select input items =>
    obtain ⟨compiled, -, hnames, rfl⟩ := Planner.draftSelect_eq_ok_iff.1 hdraft
    exact iff_of_true hnames trivial
  | filter input e =>
    obtain ⟨predicate, -, rfl⟩ := Planner.draftFilter_eq_ok_iff.1 hdraft
    exact hinputs input (List.mem_singleton_self input)
  | rekey input key updateRowKey =>
    obtain ⟨-, index, rowKeyIndex, -, -, rfl⟩ := Planner.draftRekey_eq_ok_iff.1 hdraft
    exact hinputs input (List.mem_singleton_self input)
  | join left right request =>
    obtain ⟨-, hschema, key, engineCall, -, -, rfl⟩ := Planner.draftJoin_eq_ok_iff.1 hdraft
    have hleft := hinputs left List.mem_cons_self
    have hright := hinputs right (List.mem_cons_of_mem _ (List.mem_singleton_self right))
    change request.schema.names.Nodup ↔ left.JoinsApart ∧ right.JoinsApart ∧ _
    rw [hschema, Schema.nodup_names_append, hleft, hright]
  | aggregate grouped items =>
    obtain ⟨compiled, aggregator, -, -, hnames, rfl⟩ :=
      Planner.draftAggregate_eq_ok_iff.1 hdraft
    exact iff_of_true hnames trivial
  | toStream input =>
    obtain ⟨-, rfl⟩ := Planner.draftToStream_eq_ok_iff.1 hdraft
    exact hinputs input (List.mem_singleton_self input)

/-- In every run, the nodes with distinct names are those that no join with a name on both
sides reaches. -/
theorem Planner.Reaches.nodup_names_iff_joinsApart {planner : Planner} {history : History}
    (h : planner.Reaches history) :
    ∀ node ∈ history.nodes, node.schema.names.Nodup ↔ node.JoinsApart :=
  h.forall_nodes fun _ _ => NodeCall.nodup_iff_joinsApart

/-! ## Two joined streams -/

/-- A stream of one column. -/
def oneColumn (id : Nat) (topic name : String) : PlanNode :=
  .source ⟨⟨id⟩, ⟨[⟨name, .int32⟩]⟩, none, .plain, ⟨.stream, .source⟩⟩ topic

/-- The calls that read two streams of one column and join them. -/
def joinCalls (name other : String) : List PlanCall :=
  [.node (.source .stream "left" ⟨[⟨name, .int32⟩]⟩ none .plain),
    .node (.source .stream "right" ⟨[⟨other, .int32⟩]⟩ none .plain),
    .node (.join (oneColumn 0 "left" name) (oneColumn 1 "right" other)
      ⟨.inner, ⟨[⟨name, .int32⟩, ⟨other, .int32⟩]⟩, some ⟨name, some 0, .int32⟩,
        some (.symmetric (.ofMillis 1000)), "json", "json"⟩)]

/-- The history after the calls of a join. -/
def joinHistory (name other : String) : History :=
  (joinCalls name other).foldl Planner.standard.advance .start

/-- The calls of a join are a run. -/
theorem reaches_joinHistory (name other : String) :
    Planner.standard.Reaches (joinHistory name other) := by
  unfold joinHistory joinCalls
  rw [List.foldl_cons, List.foldl_cons, List.foldl_cons, List.foldl_nil]
  refine .call (.call (.call .start ?_) ?_) ?_
  · intro input hinput
    cases hinput
  · intro input hinput
    cases hinput
  · change ∀ input ∈ [oneColumn 0 "left" name, oneColumn 1 "right" other],
      input ∈ [oneColumn 0 "left" name, oneColumn 1 "right" other]
    exact fun _ hinput => hinput

/-- A join of a column `A` and a column `B` has distinct names. -/
theorem nodup_names_joinHistory :
    ∃ node ∈ (joinHistory "A" "B").nodes,
      node.schema.names = ["A", "B"] ∧ node.JoinsApart ∧ node.schema.names.Nodup := by
  obtain ⟨node, hnode, hnames, hapart⟩ :
      ∃ node ∈ (joinHistory "A" "B").nodes,
        node.schema.names = ["A", "B"] ∧ node.JoinsApart := by
    refine ⟨_, List.mem_of_getElem? (i := 2) rfl, rfl, trivial, trivial, ?_⟩
    decide
  exact ⟨node, hnode, hnames, hapart,
    ((reaches_joinHistory "A" "B").nodup_names_iff_joinsApart node hnode).2 hapart⟩

/-- A join of two columns `A` is returned all the same, with the name twice. -/
theorem exists_repeated_name :
    ∃ history, Planner.standard.Reaches history ∧
      ∃ node ∈ history.nodes, node.schema.names = ["A", "A"] ∧ ¬ node.schema.names.Nodup := by
  refine ⟨joinHistory "A" "A", reaches_joinHistory "A" "A", _,
    List.mem_of_getElem? (i := 2) rfl, rfl, ?_⟩
  decide

end StreamPlan
