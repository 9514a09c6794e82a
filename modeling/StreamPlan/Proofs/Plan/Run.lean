import StreamPlan.Function.Builtin
import StreamPlan.Proofs.Plan.Drafted
import StreamPlan.Proofs.Plan.Exec

/-!
# Runs of a planner

A run is a sequence of calls of one planner.  What was returned so far is a history: the
session, the nodes and the groupings, oldest first.  A call is made on nodes and groupings
of the history; a call that fails adds nothing to them.

Main results:

- `Planner.advance`: what a call adds to a history.
- `Planner.Reaches`: the histories of all runs.
- `NodeCall.exec_build`: the node of a call is its input or comes from its draft.
- `Planner.exec_rekey_eq_ok_iff`: what a rekey returns, and what it leaves.
- `Planner.Reaches.forall_nodes`, `Planner.Reaches.forall_nodes_drafted`: what every call
  passes on from its inputs to its node holds of all nodes of a run.
- `Planner.Reaches.foldl`: the runs as sequences of calls.
-/

namespace StreamPlan

/-! ## Calls -/

/-- A call that makes a node. -/
inductive NodeCall where
  | source (form : Form) (topic : String) (schema : Schema) (key : Option KeyField)
      (format : KeyFormat)
  | select (input : PlanNode) (items : List SelectItem)
  | filter (input : PlanNode) (e : Expr)
  | rekey (input : PlanNode) (key : KeyField) (updateRowKey : Bool)
  | join (left right : PlanNode) (request : JoinRequest)
  | aggregate (grouped : GroupedStream) (items : List AggregateItem)
  | toStream (input : PlanNode)

/-- A call of a planning session. -/
inductive PlanCall where
  | node (call : NodeCall)
  | groupBy (input : PlanNode) (parts : List Expr) (encoding : String)
  | intoSink (input : PlanNode) (request : SinkRequest)

namespace NodeCall

/-- The nodes that a call is made on; for an aggregation the grouped one. -/
def inputs : NodeCall → List PlanNode
  | source .. => []
  | select input _ => [input]
  | filter input _ => [input]
  | rekey input .. => [input]
  | join left right _ => [left, right]
  | aggregate grouped _ => [grouped.source]
  | toStream input => [input]

/-- The operation of a call. -/
def build (planner : Planner) : NodeCall → Build PlanNode
  | source .stream topic schema key format => planner.sourceStream topic schema key format
  | source .table topic schema key format => planner.sourceTable topic schema key format
  | select input items => planner.select input items
  | filter input e => planner.filter input e
  | rekey input key updateRowKey => planner.rekey input key updateRowKey
  | join left right request => planner.join left right request
  | aggregate grouped items => planner.aggregate grouped items
  | toStream input => planner.toStream input

/-- The draft of the node of a call. -/
def draft (planner : Planner) : NodeCall → Except Error Draft
  | source form topic schema key format => Planner.draftSource form topic schema key format
  | select input items => planner.draftSelect input items
  | filter input e => planner.draftFilter input e
  | rekey input key updateRowKey => planner.draftRekey input key updateRowKey
  | join left right request => Planner.draftJoin left right request
  | aggregate grouped items => planner.draftAggregate grouped items
  | toStream input => Planner.draftToStream input

/-- The input of a call that is returned as it is: the node of a rekey to the name of the
key it has. -/
def unchanged? : NodeCall → Option PlanNode
  | rekey input key _ => if input.isKeyedBy key.name then some input else none
  | _ => none

/-- The node of a call when it makes one: that of its draft under some number. -/
def Makes (planner : Planner) (call : NodeCall) (node : PlanNode) : Prop :=
  ∃ draft id, call.draft planner = .ok draft ∧ node = draft.node id

/-- A call returns its input or carries out its draft. -/
theorem build_eq (planner : Planner) (call : NodeCall) :
    call.build planner =
      match call.unchanged? with
      | some input => pure input
      | none => planner.carryOut (call.draft planner) := by
  cases call with
  | source form => cases form <;> rfl
  | select | filter | join | aggregate | toStream => rfl
  | rekey input key updateRowKey =>
    rw [build, unchanged?, Planner.rekey]
    split <;> rfl

/-- An input that is returned as it is is an input of the call. -/
theorem mem_inputs_of_unchanged {call : NodeCall} {node : PlanNode}
    (h : call.unchanged? = some node) : node ∈ call.inputs := by
  cases call with
  | source | select | filter | join | aggregate | toStream => cases h
  | rekey input key updateRowKey =>
    rw [unchanged?] at h
    split at h
    · exact Option.some.inj h ▸ List.mem_singleton_self input
    · cases h

/-- The node that a call returns is one of its inputs, and then nothing has happened, or
comes from its draft. -/
theorem exec_build {planner : Planner} {call : NodeCall} {before after : Session}
    {node : PlanNode} (h : (call.build planner).exec before = (.ok node, after)) :
    (call.unchanged? = some node ∧ after = before) ∨
      ∃ draft, call.unchanged? = none ∧ call.draft planner = .ok draft ∧
        node = draft.node ⟨before.nextId⟩ ∧ after = before.afterDraft draft := by
  rw [build_eq] at h
  rcases hunchanged : call.unchanged? with _ | input <;> rw [hunchanged] at h
  · obtain ⟨draft, hdraft, -, hnode, hafter⟩ := Planner.exec_carryOut_eq_ok_iff.1 h
    exact Or.inr ⟨draft, rfl, hdraft, hnode, hafter⟩
  · obtain ⟨hnode, hafter⟩ := Prod.mk.inj h
    exact Or.inl ⟨congrArg some (Except.ok.inj hnode), hafter.symm⟩

end NodeCall

/-! ## Rekeys -/

namespace Planner

/-- The calls of a rekey. -/
def rekeyCalls (updateRowKey : Bool) : List EngineCall :=
  [.filter, .selectKey] ++ if updateRowKey then [.mapValues] else []

/-- The node of a rekey. -/
def rekeyedNode (input : PlanNode) (request : KeyField) (rekey : Rekey) (id : NodeId) : PlanNode :=
  .rekey
    ⟨id, input.schema,
      some ⟨(input.schema.fieldAt rekey.keyIndex).name,
        request.index.map fun _ => rekey.keyIndex, (input.schema.fieldAt rekey.keyIndex).type⟩,
      .plain, ⟨.stream, rekeyPipeline rekey input.pipeline⟩⟩
    input rekey

/-- A request gives the column of the new key and the one that is overwritten. -/
def RekeysBy (planner : Planner) (schema : Schema) (request : KeyField) (updateRowKey : Bool)
    (rekey : Rekey) : Prop :=
  resolveKey schema request.name = .ok rekey.keyIndex ∧
    planner.rowKeyIndex schema updateRowKey = .ok rekey.rowKeyIndex

/-- A rekey returns a node that is keyed by the requested name as it is; of another stream it
makes a node when the request gives its columns. -/
theorem exec_rekey_eq_ok_iff {planner : Planner} {input node : PlanNode} {request : KeyField}
    {updateRowKey : Bool} {before after : Session} :
    (planner.rekey input request updateRowKey).exec before = (.ok node, after) ↔
      (input.isKeyedBy request.name = true ∧ node = input ∧ after = before) ∨
        (¬ input.isKeyedBy request.name = true ∧ ¬ input.isTable = true ∧
          ∃ rekey, planner.RekeysBy input.schema request updateRowKey rekey ∧
            node = rekeyedNode input request rekey ⟨before.nextId⟩ ∧
            after =
              { before with
                nextId := before.nextId + 1
                calls := before.calls ++ rekeyCalls updateRowKey }) := by
  unfold Planner.rekey
  by_cases hkeyed : input.isKeyedBy request.name = true
  · rw [if_pos hkeyed, Build.exec_pure]
    simp [hkeyed, @eq_comm _ node, @eq_comm _ after]
  · rw [if_neg hkeyed, exec_carryOut_eq_ok_iff, or_iff_right fun h => hkeyed h.1,
      and_iff_right hkeyed]
    constructor
    · rintro ⟨draft, hdraft, -, rfl, rfl⟩
      obtain ⟨hstream, index, rowKeyIndex, hindex, hrow, rfl⟩ := draftRekey_eq_ok_iff.1 hdraft
      refine ⟨hstream, ⟨index, rowKeyIndex⟩, ⟨hindex, hrow⟩, rfl, ?_⟩
      rw [Session.afterDraft, rekeyCalls, ← isSome_of_rowKeyIndex hrow]
    · rintro ⟨hstream, rekey, ⟨hindex, hrow⟩, rfl, rfl⟩
      refine ⟨_, draftRekey_eq_ok_iff.2 ⟨hstream, _, _, hindex, hrow, rfl⟩,
        planner.engine.acceptsAll_of_total ?_ _, rfl, ?_⟩
      · simp [EngineCall.mayFail]
      · rw [Session.afterDraft, rekeyCalls, ← isSome_of_rowKeyIndex hrow]

end Planner

/-! ## Histories -/

/-- What a caller of a planner has: the session, and the nodes and groupings returned so
far. -/
structure History where
  session : Session
  nodes : List PlanNode
  groups : List GroupedStream

/-- The history of no calls. -/
def History.start : History := ⟨.empty, [], []⟩

/-- A call is made on nodes and groupings of the history. -/
def PlanCall.On (history : History) : PlanCall → Prop
  | node (.aggregate grouped _) => grouped ∈ history.groups
  | node call => ∀ input ∈ call.inputs, input ∈ history.nodes
  | groupBy input .. => input ∈ history.nodes
  | intoSink input _ => input ∈ history.nodes

/-- A grouping comes from its draft. -/
def GroupedStream.Drafted (planner : Planner) (grouped : GroupedStream) : Prop :=
  ∃ input parts encoding draft, planner.draftGroup input parts encoding = .ok draft ∧
    grouped = draft.grouped

/-- A call is made on a grouping that was drafted, if it is made on one. -/
def NodeCall.OnDrafted (planner : Planner) : NodeCall → Prop
  | aggregate grouped _ => grouped.Drafted planner
  | _ => True

namespace Planner

/-- What a call adds to a history. -/
def advance (planner : Planner) (history : History) : PlanCall → History
  | .node call =>
    match (call.build planner).exec history.session with
    | (.ok node, session) => { history with session, nodes := history.nodes ++ [node] }
    | (.error _, session) => { history with session }
  | .groupBy input parts encoding =>
    match (planner.groupBy input parts encoding).exec history.session with
    | (.ok grouped, session) => { history with session, groups := history.groups ++ [grouped] }
    | (.error _, session) => { history with session }
  | .intoSink input request =>
    { history with session := ((planner.intoSink input request).exec history.session).2 }

/-- The histories of the runs of a planner. -/
inductive Reaches (planner : Planner) : History → Prop
  | start : Reaches planner .start
  | call {history : History} {call : PlanCall} (before : Reaches planner history)
      (on : call.On history) : Reaches planner (planner.advance history call)

/-- A planner with the default configuration and the built-in functions. -/
def standard : Planner := ⟨.namedTopics, .default, .builtins, rfl⟩

variable {planner : Planner} {history : History}

/-- A grouping that is returned comes from its draft. -/
theorem exec_groupBy {input : PlanNode} {parts : List Expr} {encoding : String}
    {before after : Session} {grouped : GroupedStream}
    (h : (planner.groupBy input parts encoding).exec before = (.ok grouped, after)) :
    ∃ draft, planner.draftGroup input parts encoding = .ok draft ∧ grouped = draft.grouped := by
  obtain ⟨draft, hdraft, -, hgrouped, -⟩ := exec_groupBy_eq_ok_iff.1 h
  exact ⟨draft, hdraft, hgrouped⟩

/-- A grouping whose calls no engine refuses is returned in every session. -/
theorem exec_groupBy_of_total (planner : Planner) {input : PlanNode} {parts : List Expr}
    {encoding : String} {draft : GroupDraft}
    (hdraft : planner.draftGroup input parts encoding = .ok draft)
    (hcalls : ∀ c ∈ draft.calls, c.mayFail = false) (session : Session) :
    ∃ after, (planner.groupBy input parts encoding).exec session = (.ok draft.grouped, after) :=
  ⟨_, exec_groupBy_eq_ok_iff.2
    ⟨draft, hdraft, planner.engine.acceptsAll_of_total hcalls _, rfl, rfl⟩⟩

/-- A call adds at most one node. -/
theorem nodes_advance (call : PlanCall) :
    (planner.advance history call).nodes = history.nodes ∨
      ∃ made node after, call = .node made ∧
        (made.build planner).exec history.session = (.ok node, after) ∧
        (planner.advance history call).nodes = history.nodes ++ [node] := by
  cases call with
  | node made =>
    rcases hexec : (made.build planner).exec history.session with ⟨_ | node, after⟩
    · left
      rw [advance, hexec]
    · right
      refine ⟨made, node, after, rfl, hexec, ?_⟩
      rw [advance, hexec]
  | groupBy input parts encoding =>
    left
    rw [advance]
    split <;> rfl
  | intoSink input request => exact Or.inl rfl

/-- A call adds at most one grouping. -/
theorem groups_advance (call : PlanCall) :
    (planner.advance history call).groups = history.groups ∨
      ∃ input parts encoding grouped after, call = .groupBy input parts encoding ∧
        (planner.groupBy input parts encoding).exec history.session = (.ok grouped, after) ∧
        (planner.advance history call).groups = history.groups ++ [grouped] := by
  cases call with
  | node made =>
    left
    rw [advance]
    split <;> rfl
  | groupBy input parts encoding =>
    rcases hexec : (planner.groupBy input parts encoding).exec history.session with
      ⟨_ | grouped, after⟩
    · left
      rw [advance, hexec]
    · right
      refine ⟨input, parts, encoding, grouped, after, rfl, hexec, ?_⟩
      rw [advance, hexec]
  | intoSink input request => exact Or.inl rfl

/-- No node is forgotten. -/
theorem mem_nodes_advance {node : PlanNode} (hnode : node ∈ history.nodes) (call : PlanCall) :
    node ∈ (planner.advance history call).nodes := by
  rcases @nodes_advance planner history call with
    hsame | ⟨_, _, _, _, _, hadded⟩
  · exact hsame ▸ hnode
  · exact hadded ▸ List.mem_append_left _ hnode

/-! ## Nodes of a run -/

/-- A grouping is one of the node it was drafted for. -/
theorem source_of_draftGroup {input : PlanNode} {parts : List Expr} {encoding : String}
    {draft : GroupDraft} (h : planner.draftGroup input parts encoding = .ok draft) :
    draft.grouped.source = input := by
  obtain ⟨-, -, ⟨key, -, -, rfl⟩ | ⟨-, hvalues⟩⟩ := draftGroup_eq_ok_iff.1 h
  · rfl
  · unfold groupOnValues at hvalues
    obtain ⟨compiled, -, heq⟩ := bind_eq_ok_iff.1 hvalues
    exact Except.ok.inj heq ▸ rfl

/-- The grouped node of a grouping was returned before. -/
theorem Reaches.source_mem (h : planner.Reaches history) :
    ∀ grouped ∈ history.groups, grouped.source ∈ history.nodes := by
  induction h with
  | start =>
    intro grouped hgrouped
    cases hgrouped
  | @call history call _ on ih =>
    intro grouped hgrouped
    apply mem_nodes_advance
    rcases @groups_advance planner history call with
      hsame | ⟨input, parts, encoding, added, after, rfl, hexec, hadded⟩
    · exact ih grouped (hsame ▸ hgrouped)
    · rw [hadded] at hgrouped
      rcases List.mem_append.1 hgrouped with hold | hnew
      · exact ih grouped hold
      · obtain rfl := List.mem_singleton.1 hnew
        obtain ⟨draft, hdraft, rfl⟩ := exec_groupBy hexec
        rw [source_of_draftGroup hdraft]
        exact on

/-- The inputs of a call were returned before. -/
theorem Reaches.inputs_mem (h : planner.Reaches history) {call : NodeCall}
    (on : (PlanCall.node call).On history) : ∀ input ∈ call.inputs, input ∈ history.nodes := by
  cases call with
  | aggregate grouped items =>
    intro input hinput
    obtain rfl := List.mem_singleton.1 hinput
    exact h.source_mem grouped on
  | source | select | filter | rekey | join | toStream => exact on

/-- The groupings of a run were drafted. -/
theorem Reaches.drafted (h : planner.Reaches history) :
    ∀ grouped ∈ history.groups, grouped.Drafted planner := by
  induction h with
  | start =>
    intro grouped hgrouped
    cases hgrouped
  | @call history call _ on ih =>
    intro grouped hgrouped
    rcases @groups_advance planner history call with
      hsame | ⟨input, parts, encoding, added, after, rfl, hexec, hadded⟩
    · exact ih grouped (hsame ▸ hgrouped)
    · rw [hadded] at hgrouped
      rcases List.mem_append.1 hgrouped with hold | hnew
      · exact ih grouped hold
      · obtain rfl := List.mem_singleton.1 hnew
        obtain ⟨draft, hdraft, rfl⟩ := exec_groupBy hexec
        exact ⟨input, parts, encoding, draft, hdraft, rfl⟩

/-- An aggregation is made on a grouping that was drafted. -/
theorem Reaches.onDrafted (h : planner.Reaches history) {call : NodeCall}
    (on : (PlanCall.node call).On history) : call.OnDrafted planner := by
  cases call with
  | aggregate grouped items => exact h.drafted grouped on
  | source | select | filter | rekey | join | toStream => trivial

/-- A property of nodes that every draft on drafted groupings passes on from the inputs to the
node holds of all nodes of a run. -/
theorem Reaches.forall_nodes_drafted {property : PlanNode → Prop}
    (step : ∀ (call : NodeCall) (node : PlanNode), call.OnDrafted planner →
      (∀ input ∈ call.inputs, property input) → call.Makes planner node → property node)
    (h : planner.Reaches history) : ∀ node ∈ history.nodes, property node := by
  induction h with
  | start =>
    intro node hnode
    cases hnode
  | @call history call before on ih =>
    intro node hnode
    rcases @nodes_advance planner history call with
      hsame | ⟨made, added, after, rfl, hexec, hadded⟩
    · exact ih node (hsame ▸ hnode)
    · rw [hadded] at hnode
      rcases List.mem_append.1 hnode with hold | hnew
      · exact ih node hold
      · obtain rfl := List.mem_singleton.1 hnew
        have hinputs := before.inputs_mem on
        rcases NodeCall.exec_build hexec with ⟨hunchanged, -⟩ | ⟨draft, -, hdraft, hnode, -⟩
        · exact ih _ (hinputs _ (NodeCall.mem_inputs_of_unchanged hunchanged))
        · refine step made _ (before.onDrafted on) (fun input hinput => ?_)
            ⟨draft, _, hdraft, hnode⟩
          exact ih input (hinputs input hinput)

/-- A property of nodes that every draft passes on from the inputs to the node holds of all
nodes of a run. -/
theorem Reaches.forall_nodes {property : PlanNode → Prop}
    (step : ∀ (call : NodeCall) (node : PlanNode), (∀ input ∈ call.inputs, property input) →
      call.Makes planner node → property node)
    (h : planner.Reaches history) : ∀ node ∈ history.nodes, property node :=
  h.forall_nodes_drafted fun call node _ => step call node

/-! ## Sequences of calls -/

/-- The calls of a sequence are made on nodes and groupings that were returned before. -/
def CallsOn (planner : Planner) : History → List PlanCall → Prop
  | _, [] => True
  | history, call :: rest => call.On history ∧ planner.CallsOn (planner.advance history call) rest

/-- A sequence of calls goes on with a run. -/
theorem Reaches.foldl {calls : List PlanCall} (h : planner.Reaches history)
    (on : planner.CallsOn history calls) :
    planner.Reaches (calls.foldl planner.advance history) := by
  induction calls generalizing history with
  | nil => exact h
  | cons call rest ih => exact ih (.call h on.1) on.2

end Planner

end StreamPlan
