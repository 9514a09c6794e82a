import StreamPlan.Proofs.Plan.Numbering

/-!
# Sinks of a run

A sink is attached to a node once.  What is recorded of it follows from the node, the request
and the configured counts, and no later call changes it.

Main results:

- `mem_insertSink`, `pairwise_insertSink`: a sink at its place among others.
- `SinkAttachment.Attaches`: what a recorded sink says of its node and of its request.
- `Planner.sinks_advance`: what a call does to the sinks.
- `Planner.sinksRequested_foldl`: all sinks of a run were requested in it.
- `Planner.recordsSinks`: what every run records, and keeps.
-/

namespace StreamPlan

/-! ## The table of sinks -/

/-- Inserting adds one sink. -/
theorem mem_insertSink {sink other : SinkAttachment} {sinks : List SinkAttachment} :
    other ∈ insertSink sink sinks ↔ other = sink ∨ other ∈ sinks := by
  induction sinks with
  | nil => simp [insertSink]
  | cons first rest ih =>
    rw [insertSink]
    split
    · rw [List.mem_cons]
    · rw [List.mem_cons, ih, List.mem_cons, or_left_comm]

/-- A sink of a node that has none keeps the order of the nodes. -/
theorem pairwise_insertSink {sink : SinkAttachment} {sinks : List SinkAttachment}
    (h : sinks.Pairwise fun a b => a.node.index < b.node.index)
    (hnew : ∀ other ∈ sinks, other.node ≠ sink.node) :
    (insertSink sink sinks).Pairwise fun a b => a.node.index < b.node.index := by
  induction sinks with
  | nil => exact List.pairwise_singleton _ _
  | cons first rest ih =>
    obtain ⟨hfirst, hrest⟩ := List.pairwise_cons.1 h
    obtain ⟨hne, hnewRest⟩ := List.forall_mem_cons.1 hnew
    have hindex : first.node.index ≠ sink.node.index := fun heq =>
      hne (congrArg NodeId.mk heq)
    rw [insertSink]
    split
    · rename_i hlt
      refine List.pairwise_cons.2 ⟨fun other hother => ?_, h⟩
      rcases List.mem_cons.1 hother with rfl | hother
      · exact hlt
      · exact Nat.lt_trans hlt (hfirst other hother)
    · rename_i hge
      refine List.pairwise_cons.2 ⟨fun other hother => ?_, ih hrest hnewRest⟩
      rcases mem_insertSink.1 hother with rfl | hother
      · omega
      · exact hfirst other hother

namespace Session

variable {session : Session}

/-- The sinks stand in the order of their nodes, and no node has two. -/
def SinksOrdered (session : Session) : Prop :=
  session.sinks.Pairwise fun a b => a.node.index < b.node.index

/-- The sink that is found for a node is recorded for it. -/
theorem mem_of_sinkOf? {id : NodeId} {sink : SinkAttachment}
    (h : session.sinkOf? id = some sink) : sink ∈ session.sinks ∧ sink.node = id := by
  unfold sinkOf? at h
  have hnode := List.find?_some h
  exact ⟨List.mem_of_find?_eq_some h, beq_iff_eq.1 hnode⟩

/-- In an ordered table the sink that is recorded for a node is found. -/
theorem SinksOrdered.sinkOf?_of_mem (h : session.SinksOrdered) {sink : SinkAttachment}
    (hmem : sink ∈ session.sinks) : session.sinkOf? sink.node = some sink := by
  obtain ⟨other, hother⟩ : ∃ other, session.sinkOf? sink.node = some other :=
    Option.isSome_iff_exists.1 (List.find?_isSome.2 ⟨sink, hmem, beq_self_eq_true _⟩)
  obtain ⟨hotherMem, hsame⟩ := mem_of_sinkOf? hother
  have hnodup : (session.sinks.map (·.node.index)).Nodup :=
    List.pairwise_map.2 (h.imp Nat.ne_of_lt)
  have heq := List.inj_on_of_nodup_map hnodup hotherMem hmem (congrArg NodeId.index hsame)
  rw [hother, heq]

/-- A node without a sink has none in the table. -/
theorem node_ne_of_sinkOf?_eq_none {id : NodeId} (h : session.sinkOf? id = none) :
    ∀ sink ∈ session.sinks, sink.node ≠ id := by
  intro sink hsink heq
  have hother := List.find?_eq_none.1 h sink hsink
  exact hother (beq_iff_eq.2 heq)

end Session

/-! ## What is recorded -/

/-- The fields that are left of a schema are those at the other positions, in order. -/
theorem IndexSet.dropFrom_fields (set : IndexSet) (schema : Schema) :
    set.dropFrom schema.fields =
      ((List.range schema.width).filter fun i => !set.contains i).map schema.fieldAt := by
  have hpairs : schema.fields.zipIdx =
      (List.range schema.width).map fun i => (schema.fieldAt i, i) := by
    apply List.ext_getElem
    · simp [Schema.width]
    · intro i hi _
      rw [List.length_zipIdx] at hi
      simp [Schema.fieldAt, hi]
  rw [dropFrom, hpairs, List.filter_map, List.map_map]
  rfl

/-- Positions none of which lies beyond a width lie below it. -/
theorem IndexSet.firstBeyond?_eq_none_iff {set : IndexSet} {width : Nat} :
    set.firstBeyond? width = none ↔ ∀ i ∈ set.indexes, i < width := by
  rw [firstBeyond?, List.find?_eq_none]
  refine forall₂_congr fun i _ => ?_
  rw [decide_eq_true_eq, Nat.not_le]

/-- A count is zero only if it was set to zero, as its default is not. -/
theorem getD_ne_iff {α : Type} {requested? : Option α} {default zero : α} (h : default ≠ zero) :
    requested?.getD default ≠ zero ↔ requested? ≠ some zero := by
  cases requested? with
  | none => exact iff_of_true h nofun
  | some requested => simp

/-- A sink is attached to a node as it was requested. -/
structure SinkAttachment.Attaches (sink : SinkAttachment) (input : PlanNode)
    (request : SinkRequest) : Prop where
  node : sink.node = input.id
  topic : sink.topic = request.topic
  encoding : sink.encoding = request.encoding
  dropped : sink.dropped = request.dropped
  /-- The columns that are left out are columns of the node. -/
  inside : ∀ i ∈ sink.dropped.indexes, i < input.schema.width
  /-- The others are written, in the order that they have in the node. -/
  schema : sink.schema.fields =
    ((List.range input.schema.width).filter fun i => !sink.dropped.contains i).map
      input.schema.fieldAt
  /-- The topic has partitions, unless none were asked for. -/
  partitions : sink.partitions ≠ 0 ↔ request.partitions ≠ some 0
  /-- The topic has replicas, unless none were asked for. -/
  replicas : sink.replicas ≠ 0 ↔ request.replicas ≠ some 0

namespace Planner

variable {planner : Planner} {history : History} {call : PlanCall}

/-- The checks of a sink pass when its node has none and the columns are there. -/
theorem requireSink_eq_ok_iff {session : Session} {input : PlanNode} {request : SinkRequest} :
    requireSink session input request = .ok () ↔
      session.sinkOf? input.id = none ∧
        ∀ i ∈ request.dropped.indexes, i < input.schema.width := by
  rw [← IndexSet.firstBeyond?_eq_none_iff, requireSink]
  rcases session.sinkOf? input.id with _ | sink
  · rcases request.dropped.firstBeyond? input.schema.width with _ | i <;> simp
  · simp

/-- The sink that a request describes attaches to its node, if the columns are there. -/
theorem attaches_sinkFor (planner : Planner) {input : PlanNode} {request : SinkRequest}
    (h : ∀ i ∈ request.dropped.indexes, i < input.schema.width) :
    (planner.sinkFor input request).Attaches input request where
  node := rfl
  topic := rfl
  encoding := rfl
  dropped := rfl
  inside := h
  schema := request.dropped.dropFrom_fields input.schema
  partitions := getD_ne_iff (Config.validate_eq_ok_iff.1 planner.valid).2.2.2.2.1
  replicas := getD_ne_iff (Config.validate_eq_ok_iff.1 planner.valid).2.2.2.2.2

/-! ## Calls -/

/-- A call that fails leaves the sinks as they are. -/
theorem sinks_advance_of_error {e : Error} {after : Session}
    (h : (call.build planner).exec history.session = (.error e, after)) :
    (planner.advance history call).session.sinks = history.session.sinks := by
  obtain ⟨accepted, rfl⟩ := PlanCall.exists_afterCalls_of_exec_build h
  rw [advance_of_error h]
  rfl

/-- A call leaves the sinks as they are, or attaches the sink that it asks for. -/
theorem sinks_advance (planner : Planner) (history : History) (call : PlanCall) :
    (planner.advance history call).session.sinks = history.session.sinks ∨
      ∃ input request, call = .intoSink input request ∧
        requireSink history.session input request = .ok () ∧
        (planner.advance history call).session.sinks =
          insertSink (planner.sinkFor input request) history.session.sinks := by
  cases call with
  | node made =>
    left
    rcases hexec : (made.build planner).exec history.session with ⟨e | node, after⟩
    · exact sinks_advance_of_error (Build.exec_discard_eq_error_iff.2 hexec)
    · rw [advance, hexec]
      rcases NodeCall.exec_build hexec with ⟨-, rfl⟩ | ⟨draft, -, -, -, rfl⟩
      · rfl
      · rfl
  | groupBy input parts encoding =>
    left
    rcases hexec : (planner.groupBy input parts encoding).exec history.session with
      ⟨e | grouped, after⟩
    · exact sinks_advance_of_error (Build.exec_discard_eq_error_iff.2 hexec)
    · obtain ⟨draft, -, -, -, rfl⟩ := exec_groupBy_eq_ok_iff.1 hexec
      rw [advance, hexec]
      rfl
  | intoSink input request =>
    rcases hexec : (planner.intoSink input request).exec history.session with ⟨e | sink, after⟩
    · exact Or.inl (sinks_advance_of_error (Build.exec_discard_eq_error_iff.2 hexec))
    · obtain ⟨hchecks, -, rfl, rfl⟩ := exec_intoSink_eq_ok_iff.1 hexec
      refine Or.inr ⟨input, request, rfl, hchecks, ?_⟩
      rw [advance, hexec]

/-- No call changes or loses a sink. -/
theorem mem_sinks_foldl {sink : SinkAttachment} (hsink : sink ∈ history.session.sinks)
    (calls : List PlanCall) : sink ∈ (calls.foldl planner.advance history).session.sinks := by
  induction calls generalizing history with
  | nil => exact hsink
  | cons call rest ih =>
    refine ih ?_
    rcases planner.sinks_advance history call with hsame | ⟨input, request, -, -, hadded⟩
    · exact hsame ▸ hsink
    · exact hadded ▸ mem_insertSink.2 (Or.inr hsink)

/-- No call puts the sinks out of order or gives a node a second one. -/
theorem sinksOrdered_advance (h : history.session.SinksOrdered) (call : PlanCall) :
    (planner.advance history call).session.SinksOrdered := by
  unfold Session.SinksOrdered
  rcases planner.sinks_advance history call with hsame | ⟨input, request, -, hchecks, hadded⟩
  · rw [hsame]
    exact h
  · rw [hadded]
    exact pairwise_insertSink h
      (Session.node_ne_of_sinkOf?_eq_none (requireSink_eq_ok_iff.1 hchecks).1)

/-- The sinks of a run are in order. -/
theorem sinksOrdered_foldl (h : history.session.SinksOrdered) (calls : List PlanCall) :
    (calls.foldl planner.advance history).session.SinksOrdered := by
  induction calls generalizing history with
  | nil => exact h
  | cons call rest ih => exact ih (sinksOrdered_advance h call)

/-! ## Runs -/

/-- Every sink of a history was requested by one of the calls, for a node of the history. -/
def SinksRequested (history : History) (made : List PlanCall) : Prop :=
  ∀ sink ∈ history.session.sinks, ∃ input ∈ history.nodes, ∃ request,
    .intoSink input request ∈ made ∧ sink.Attaches input request

/-- A call requests the sink that it attaches. -/
theorem sinksRequested_advance {made : List PlanCall} (h : SinksRequested history made)
    (on : call.On history) : SinksRequested (planner.advance history call) (made ++ [call]) := by
  intro sink hsink
  have hold : sink ∈ history.session.sinks →
      ∃ input ∈ (planner.advance history call).nodes, ∃ request,
        .intoSink input request ∈ made ++ [call] ∧ sink.Attaches input request := by
    intro hmem
    obtain ⟨input, hinput, request, hmade, hattaches⟩ := h sink hmem
    exact ⟨input, mem_nodes_advance hinput call, request, List.mem_append_left _ hmade, hattaches⟩
  rcases planner.sinks_advance history call with hsame | ⟨input, request, rfl, hchecks, hadded⟩
  · exact hold (hsame ▸ hsink)
  · rw [hadded] at hsink
    rcases mem_insertSink.1 hsink with rfl | hmem
    · exact ⟨input, mem_nodes_advance on _, request,
        List.mem_append_right _ (List.mem_singleton_self _),
        planner.attaches_sinkFor (requireSink_eq_ok_iff.1 hchecks).2⟩
    · exact hold hmem

/-- All sinks of a run were requested in it. -/
theorem sinksRequested_foldl {made calls : List PlanCall} (h : SinksRequested history made)
    (on : planner.CallsOn history calls) :
    SinksRequested (calls.foldl planner.advance history) (made ++ calls) := by
  induction calls generalizing history made with
  | nil =>
    rw [List.append_nil]
    exact h
  | cons call rest ih =>
    rw [List.append_cons]
    exact ih (sinksRequested_advance h on.1) on.2

/-- What the table of sinks holds after a run. -/
structure RecordsSinks (planner : Planner) (calls : List PlanCall) : Prop where
  /-- Every sink was requested in the run, and is attached as requested to the one node with
  the number that it has. -/
  requested : ∀ sink ∈ (calls.foldl planner.advance .start).session.sinks,
    ∃ input ∈ (calls.foldl planner.advance .start).nodes, ∃ request,
      .intoSink input request ∈ calls ∧ sink.Attaches input request ∧
        ∀ node ∈ (calls.foldl planner.advance .start).nodes, node.id = sink.node → node = input
  /-- No two sinks are attached to one node. -/
  apart : ((calls.foldl planner.advance .start).session.sinks.map (·.node)).Nodup
  /-- What a request returns at some point of the run is recorded at its end. -/
  returned : ∀ {earlier later : List PlanCall} {input : PlanNode} {request : SinkRequest}
    {sink : SinkAttachment} {after : Session},
    calls = earlier ++ .intoSink input request :: later →
    (planner.intoSink input request).exec (earlier.foldl planner.advance .start).session =
      (.ok sink, after) →
    (calls.foldl planner.advance .start).session.sinkOf? input.id = some sink
  /-- The sink that a node has at some point of the run is the one that it has at its end,
  whatever later calls do and whether they fail. -/
  kept : ∀ {earlier later : List PlanCall} {id : NodeId} {sink : SinkAttachment},
    calls = earlier ++ later →
    (earlier.foldl planner.advance .start).session.sinkOf? id = some sink →
    (calls.foldl planner.advance .start).session.sinkOf? id = some sink

/-- Every run records the sinks that were requested of its nodes, one for each node at most,
and keeps them as they are.  A sink has partitions and replicas unless its request sets them
to zero: the configured defaults are checked, what a request sets is not. -/
theorem recordsSinks {calls : List PlanCall} (on : planner.CallsOn .start calls) :
    planner.RecordsSinks calls := by
  have hempty : History.start.session.SinksOrdered := List.Pairwise.nil
  have hordered : (calls.foldl planner.advance .start).session.SinksOrdered :=
    sinksOrdered_foldl hempty calls
  refine ⟨fun sink hsink => ?_, ?_, ?_, ?_⟩
  · have hstart : SinksRequested .start [] := nofun
    obtain ⟨input, hinput, request, hmade, hattaches⟩ :=
      sinksRequested_foldl hstart on sink hsink
    refine ⟨input, hinput, request, hmade, hattaches, fun node hnode hid => ?_⟩
    have hbuilt : ∀ n ∈ (calls.foldl planner.advance .start).nodes,
        n ∈ planner.builtBy .start calls := fun n hn =>
      (((Reaches.start.mem_nodes_foldl_iff on).1 hn).resolve_left nofun)
    exact eq_of_index_eq (hbuilt node hnode) (hbuilt input hinput)
      (congrArg NodeId.index (hid.trans hattaches.node))
  · exact List.pairwise_map.2 (hordered.imp fun hlt heq =>
      Nat.ne_of_lt hlt (congrArg NodeId.index heq))
  · rintro earlier later input request sink after rfl hexec
    have hrecorded :
        sink ∈ (planner.advance (earlier.foldl planner.advance .start)
          (.intoSink input request)).session.sinks := by
      rw [advance, hexec]
      obtain ⟨-, -, -, rfl⟩ := exec_intoSink_eq_ok_iff.1 hexec
      exact mem_insertSink.2 (Or.inl rfl)
    obtain ⟨-, -, rfl, -⟩ := exec_intoSink_eq_ok_iff.1 hexec
    rw [List.foldl_append, List.foldl_cons] at hordered ⊢
    exact hordered.sinkOf?_of_mem (mem_sinks_foldl hrecorded later)
  · rintro earlier later id sink rfl hfound
    obtain ⟨hmem, rfl⟩ := Session.mem_of_sinkOf? hfound
    rw [List.foldl_append] at hordered ⊢
    exact hordered.sinkOf?_of_mem (mem_sinks_foldl hmem later)

/-! ## Two sinks of one stream -/

/-- A stream of payments. -/
def payments : PlanNode :=
  .source
    ⟨⟨0⟩, ⟨[⟨"ROWKEY", .utf8⟩, ⟨"AMOUNT", .float64⟩]⟩, some ⟨"ROWKEY", some 0, .utf8⟩, .plain,
      ⟨.stream, .source⟩⟩
    "payments"

/-- A request for a sink without the row key, with some number of partitions. -/
def paymentsSink (topic : String) (partitions : Option UInt32) : SinkRequest :=
  ⟨topic, "json", .ofList [0], partitions, none⟩

/-- The calls that read the payments and attach a sink to them, and another one which is
refused. -/
def paymentCalls (partitions : Option UInt32) : List PlanCall :=
  [.node (.source .stream "payments" payments.schema payments.keyField .plain),
    .intoSink payments (paymentsSink "first" partitions),
    .intoSink payments (paymentsSink "second" none)]

/-- The calls are made on nodes of the run. -/
theorem callsOn_paymentCalls (partitions : Option UInt32) :
    standard.CallsOn .start (paymentCalls partitions) :=
  ⟨nofun, List.mem_singleton_self payments, List.mem_singleton_self payments, trivial⟩

/-- With three partitions the first sink is recorded, and stays. -/
theorem recordsSinks_payments :
    ∃ sink, ((paymentCalls (some 3)).foldl standard.advance .start).session.sinkOf? ⟨0⟩ =
        some sink ∧ sink.topic = "first" ∧ sink.partitions = 3 ∧ sink.replicas = 1 ∧
      sink.schema.names = ["AMOUNT"] ∧
      ((paymentCalls (some 3)).foldl standard.advance .start).session.sinks = [sink] := by
  have hrecords := recordsSinks (callsOn_paymentCalls (some 3))
  obtain ⟨sink, after, hexec, htopic, hpartitions, hreplicas, hnames, hsinks⟩ :
      ∃ sink after, (standard.intoSink payments (paymentsSink "first" (some 3))).exec
          (((paymentCalls (some 3)).take 1).foldl standard.advance .start).session =
            (.ok sink, after) ∧ sink.topic = "first" ∧ sink.partitions = 3 ∧
        sink.replicas = 1 ∧ sink.schema.names = ["AMOUNT"] ∧
        ((paymentCalls (some 3)).foldl standard.advance .start).session.sinks = [sink] :=
    ⟨_, _, rfl, rfl, rfl, rfl, rfl, rfl⟩
  exact ⟨sink, hrecords.returned (rfl : _ = (paymentCalls (some 3)).take 1 ++ _) hexec, htopic,
    hpartitions, hreplicas, hnames, hsinks⟩

/-- A request for no partitions is granted, although the same number is refused as a
default. -/
theorem exists_sink_without_partitions :
    ∃ history, standard.Reaches history ∧
      (∃ sink ∈ history.session.sinks, sink.partitions = 0) ∧
      (Config.mk "ROWKEY" "WINDOWSTART" "WINDOWEND" 0 1).validate =
        .error (.config .noPartitions) :=
  ⟨_, Reaches.start.foldl (callsOn_paymentCalls (some 0)), ⟨_, List.mem_singleton_self _, rfl⟩,
    rfl⟩

end Planner

end StreamPlan
