import Mathlib.Data.List.Nodup
import Mathlib.Logic.Relation
import StreamPlan.Proofs.Plan.FailedCalls

/-!
# Numbers of nodes

The nodes of a run are numbered in the order in which they are built.  A node is made on nodes
that were returned before, so their numbers are smaller, and a plan has no cycle.

Main results:

- `PlanCall.built?`: the node that a call builds.
- `Planner.advance_cases`: what a call adds to a history, by the node that it builds.
- `Planner.builtBy`, `Planner.indices_builtBy`: the nodes that a run builds, and their numbers.
- `Planner.Reaches.mem_and_lt_of_upstream`: the nodes upstream of a node.
-/

namespace StreamPlan

/-- The node of a draft has the number that it is given and the inputs of the call. -/
theorem NodeCall.id_and_inputs {planner : Planner} {call : NodeCall} {draft : Draft}
    (h : call.draft planner = .ok draft) (id : NodeId) :
    (draft.node id).id = id ∧ (draft.node id).inputs = call.inputs := by
  cases call with
  | source =>
    obtain ⟨-, rfl⟩ := Planner.draftSource_eq_ok_iff.1 h
    exact ⟨rfl, rfl⟩
  | select =>
    obtain ⟨_, -, -, rfl⟩ := Planner.draftSelect_eq_ok_iff.1 h
    exact ⟨rfl, rfl⟩
  | filter =>
    obtain ⟨_, -, rfl⟩ := Planner.draftFilter_eq_ok_iff.1 h
    exact ⟨rfl, rfl⟩
  | rekey =>
    obtain ⟨-, _, _, -, -, rfl⟩ := Planner.draftRekey_eq_ok_iff.1 h
    exact ⟨rfl, rfl⟩
  | join =>
    obtain ⟨-, -, _, _, -, -, rfl⟩ := Planner.draftJoin_eq_ok_iff.1 h
    exact ⟨rfl, rfl⟩
  | aggregate =>
    obtain ⟨_, _, -, -, -, rfl⟩ := Planner.draftAggregate_eq_ok_iff.1 h
    exact ⟨rfl, rfl⟩
  | toStream =>
    obtain ⟨-, rfl⟩ := Planner.draftToStream_eq_ok_iff.1 h
    exact ⟨rfl, rfl⟩

/-! ## The node that a call builds -/

/-- The node that a call builds: the one it returns, unless that is its input. -/
def PlanCall.built? (planner : Planner) (session : Session) : PlanCall → Option PlanNode
  | node call =>
    match call.unchanged? with
    | some _ => none
    | none => ((call.build planner).exec session).1.toOption
  | groupBy .. => none
  | intoSink .. => none

namespace Planner

variable {planner : Planner} {history : History} {call : PlanCall}

/-- The call builds no node: it uses up no number, and a node that it returns is one of its
inputs. -/
structure AddsNoNode (planner : Planner) (history : History) (call : PlanCall) : Prop where
  builds : call.built? planner history.session = none
  nextId : (planner.advance history call).session.nextId = history.session.nextId
  nodes : (planner.advance history call).nodes = history.nodes ∨
    ∃ made input, call = .node made ∧ input ∈ made.inputs ∧
      (planner.advance history call).nodes = history.nodes ++ [input]

/-- The call builds the node of a draft and gives it the next number. -/
structure AddsNode (planner : Planner) (history : History) (call : PlanCall) (made : NodeCall)
    (draft : Draft) : Prop where
  call_eq : call = .node made
  draft_eq : made.draft planner = .ok draft
  builds : call.built? planner history.session = some (draft.node ⟨history.session.nextId⟩)
  nextId : (planner.advance history call).session.nextId = history.session.nextId + 1
  nodes : (planner.advance history call).nodes =
    history.nodes ++ [draft.node ⟨history.session.nextId⟩]

/-- A call that fails builds no node. -/
theorem addsNoNode_of_error {e : Error} {after : Session}
    (h : (call.build planner).exec history.session = (.error e, after)) :
    planner.AddsNoNode history call := by
  obtain ⟨accepted, rfl⟩ := PlanCall.exists_afterCalls_of_exec_build h
  have hadvance := advance_of_error h
  refine ⟨?_, by rw [hadvance]; rfl, Or.inl (by rw [hadvance])⟩
  cases call with
  | node call =>
    rw [PlanCall.built?, Build.exec_discard_eq_error_iff.1 h]
    split <;> rfl
  | groupBy | intoSink => rfl

/-- Every call builds a node or builds none. -/
theorem advance_cases (planner : Planner) (history : History) (call : PlanCall) :
    (∃ made draft, planner.AddsNode history call made draft) ∨
      planner.AddsNoNode history call := by
  cases call with
  | node made =>
    rcases hexec : (made.build planner).exec history.session with ⟨e | node, after⟩
    · exact Or.inr (addsNoNode_of_error (Build.exec_discard_eq_error_iff.2 hexec))
    · have hadvance : planner.advance history (.node made) =
          { history with session := after, nodes := history.nodes ++ [node] } := by
        rw [advance, hexec]
      rcases NodeCall.exec_build hexec with
        ⟨hunchanged, rfl⟩ | ⟨draft, hchanged, hdraft, rfl, rfl⟩
      · refine Or.inr ⟨?_, by rw [hadvance], Or.inr ⟨made, node, rfl,
          NodeCall.mem_inputs_of_unchanged hunchanged, by rw [hadvance]⟩⟩
        rw [PlanCall.built?, hunchanged]
      · refine Or.inl ⟨made, draft, rfl, hdraft, ?_, by rw [hadvance]; rfl, by rw [hadvance]⟩
        rw [PlanCall.built?, hchanged, hexec]
        rfl
  | groupBy input parts encoding =>
    right
    rcases hexec : (planner.groupBy input parts encoding).exec history.session with
      ⟨e | grouped, after⟩
    · exact addsNoNode_of_error (Build.exec_discard_eq_error_iff.2 hexec)
    · obtain ⟨draft, -, -, -, rfl⟩ := exec_groupBy_eq_ok_iff.1 hexec
      refine ⟨rfl, ?_, Or.inl ?_⟩
      · rw [advance, hexec]
        rfl
      · rw [advance, hexec]
  | intoSink input request =>
    right
    rcases hexec : (planner.intoSink input request).exec history.session with ⟨e | sink, after⟩
    · exact addsNoNode_of_error (Build.exec_discard_eq_error_iff.2 hexec)
    · obtain ⟨-, -, -, rfl⟩ := exec_intoSink_eq_ok_iff.1 hexec
      refine ⟨rfl, ?_, Or.inl rfl⟩
      rw [advance, hexec]
      rfl

/-! ## The nodes that a run builds -/

/-- The nodes that a sequence of calls builds, oldest first. -/
def builtBy (planner : Planner) : History → List PlanCall → List PlanNode
  | _, [] => []
  | history, call :: rest =>
    (call.built? planner history.session).toList ++
      planner.builtBy (planner.advance history call) rest

/-- The nodes that are built have the next numbers, in order, and no number is used up without
a node. -/
theorem indices_builtBy (history : History) (calls : List PlanCall) :
    (planner.builtBy history calls).map (·.id.index) =
        List.range' history.session.nextId (planner.builtBy history calls).length ∧
      (calls.foldl planner.advance history).session.nextId =
        history.session.nextId + (planner.builtBy history calls).length := by
  induction calls generalizing history with
  | nil => exact ⟨rfl, rfl⟩
  | cons call rest ih =>
    obtain ⟨hindices, hnext⟩ := ih (planner.advance history call)
    rw [builtBy, List.foldl_cons]
    rcases planner.advance_cases history call with ⟨made, draft, hadds⟩ | hadds
    · have hid := (NodeCall.id_and_inputs hadds.draft_eq ⟨history.session.nextId⟩).1
      rw [hadds.nextId] at hindices hnext
      rw [hadds.builds, Option.toList_some, List.singleton_append, List.map_cons, hid,
        List.length_cons, List.range'_succ, hindices, hnext]
      exact ⟨rfl, by omega⟩
    · rw [hadds.nextId] at hindices hnext
      rw [hadds.builds, Option.toList_none, List.nil_append]
      exact ⟨hindices, hnext⟩

/-- The nodes that a run returns are those that it builds. -/
theorem Reaches.mem_nodes_foldl_iff {calls : List PlanCall} (h : planner.Reaches history)
    (on : planner.CallsOn history calls) {node : PlanNode} :
    node ∈ (calls.foldl planner.advance history).nodes ↔
      node ∈ history.nodes ∨ node ∈ planner.builtBy history calls := by
  induction calls generalizing history with
  | nil => simp [builtBy]
  | cons call rest ih =>
    rw [List.foldl_cons, ih (h.call on.1) on.2, builtBy, List.mem_append, ← or_assoc]
    refine or_congr_left ?_
    rcases planner.advance_cases history call with ⟨made, draft, hadds⟩ | hadds
    · rw [hadds.nodes, hadds.builds, List.mem_append, Option.toList_some]
    · rw [hadds.builds, Option.toList_none, List.mem_nil_iff, or_false]
      rcases hadds.nodes with hsame | ⟨made, input, rfl, hinput, hadded⟩
      · rw [hsame]
      · rw [hadded, List.mem_append, List.mem_singleton, or_iff_left_iff_imp]
        rintro rfl
        exact h.inputs_mem on.1 node hinput

/-! ## Upstream nodes -/

/-- The nodes of a run have numbers that are used up, and so have their inputs, which were
returned before. -/
theorem Reaches.inputs_lt (h : planner.Reaches history) :
    ∀ node ∈ history.nodes, node.id.index < history.session.nextId ∧
      ∀ input ∈ node.inputs, input ∈ history.nodes ∧ input.id.index < node.id.index := by
  induction h with
  | start =>
    intro node hnode
    cases hnode
  | @call history call before on ih =>
    have hold : ∀ node ∈ history.nodes,
        node.id.index < (planner.advance history call).session.nextId ∧
          ∀ input ∈ node.inputs, input ∈ (planner.advance history call).nodes ∧
            input.id.index < node.id.index := by
      intro node hnode
      obtain ⟨hlt, hinputs⟩ := ih node hnode
      refine ⟨?_, fun input hinput =>
        ⟨mem_nodes_advance (hinputs input hinput).1 call, (hinputs input hinput).2⟩⟩
      rcases planner.advance_cases history call with ⟨made, draft, hadds⟩ | hadds
      · rw [hadds.nextId]
        omega
      · rwa [hadds.nextId]
    intro node hnode
    rcases planner.advance_cases history call with ⟨made, draft, hadds⟩ | hadds
    · obtain ⟨hid, hinputs⟩ := NodeCall.id_and_inputs hadds.draft_eq ⟨history.session.nextId⟩
      rw [hadds.nodes] at hnode
      rcases List.mem_append.1 hnode with hmem | hnew
      · exact hold node hmem
      · obtain rfl := List.mem_singleton.1 hnew
        rw [hid, hinputs, hadds.nextId]
        refine ⟨Nat.lt_succ_self _, fun input hinput => ?_⟩
        obtain rfl := hadds.call_eq
        have hmem := before.inputs_mem on input hinput
        exact ⟨mem_nodes_advance hmem _, (ih input hmem).1⟩
    · rcases hadds.nodes with hsame | ⟨made, input, rfl, hinput, hadded⟩
      · exact hold node (hsame ▸ hnode)
      · rw [hadded] at hnode
        rcases List.mem_append.1 hnode with hmem | hnew
        · exact hold node hmem
        · obtain rfl := List.mem_singleton.1 hnew
          exact hold node (before.inputs_mem on node hinput)

end Planner

/-- A node is upstream of another when a path of inputs leads from the other to it. -/
def PlanNode.Upstream : PlanNode → PlanNode → Prop :=
  Relation.TransGen fun input node => input ∈ node.inputs

namespace Planner

variable {planner : Planner} {history : History}

/-- The nodes upstream of a node of a run were returned before it, and have smaller numbers. -/
theorem Reaches.mem_and_lt_of_upstream (h : planner.Reaches history) {node upstream : PlanNode}
    (hnode : node ∈ history.nodes) (hupstream : upstream.Upstream node) :
    upstream ∈ history.nodes ∧ upstream.id.index < node.id.index := by
  induction hupstream with
  | single hinput => exact (h.inputs_lt _ hnode).2 _ hinput
  | tail _ hinput ih =>
    obtain ⟨hmem, hlt⟩ := (h.inputs_lt _ hnode).2 _ hinput
    obtain ⟨hup, hup'⟩ := ih hmem
    exact ⟨hup, Nat.lt_trans hup' hlt⟩

/-- Two nodes with one number are one node. -/
theorem eq_of_index_eq {calls : List PlanCall} {a b : PlanNode}
    (ha : a ∈ planner.builtBy history calls) (hb : b ∈ planner.builtBy history calls)
    (h : a.id.index = b.id.index) : a = b := by
  have hnodup : ((planner.builtBy history calls).map (·.id.index)).Nodup := by
    rw [(indices_builtBy history calls).1]
    exact List.nodup_range'
  exact List.inj_on_of_nodup_map hnodup ha hb h

end Planner

end StreamPlan
