import StreamPlan.Plan.Build

/-!
# Carrying out operations

An operation of a session is a draft, then calls of the engine, then a number for the
node.  It succeeds exactly when the draft does and the engine accepts every call, and then
the session has gained those calls and one number.

Main results:

- `Build.exec_bind`: operations one after the other.
- `Engine.AcceptsAll`: calls that an engine accepts one after the other.
- `Planner.exec_callAll_eq_ok_iff`, `Planner.exec_callAll_eq_error_iff`: when the engine
  accepts a list of calls, and when it refuses one of them.
- `Planner.exec_carryOut_eq_ok_iff`: when a draft is carried out, and what it leaves.
- `Planner.exec_carryOut_of_total`: a draft that no engine refuses.
- `Planner.exec_groupBy_eq_ok_iff`, `Planner.exec_intoSink_eq_ok_iff`: when a grouping is
  returned and a sink attached, and what they leave.
-/

namespace StreamPlan

namespace Build

variable {α β : Type}

/-- A second operation goes on where the first one ended, unless that one failed. -/
theorem exec_bind (build : Build α) (next : α → Build β) (session : Session) :
    (build >>= next).exec session =
      match build.exec session with
      | (.ok a, after) => (next a).exec after
      | (.error e, after) => (.error e, after) := by
  change ExceptT.bindCont next (build session).1 (build session).2 =
    match build session with
    | (.ok a, after) => (next a).exec after
    | (.error e, after) => (.error e, after)
  rcases build session with ⟨_ | a, after⟩ <;> rfl

/-- An operation that only gives a result leaves the session as it was. -/
@[simp] theorem exec_pure (a : α) (session : Session) :
    (pure a : Build α).exec session = (.ok a, session) := rfl

/-- A result computed without the session leaves it as it was. -/
@[simp] theorem exec_ofExcept (result : Except Error α) (session : Session) :
    (ofExcept result).exec session = (result, session) := rfl

/-- A result computed without the session is the one that was computed. -/
theorem exec_ofExcept_eq_ok_iff {result : Except Error α} {before after : Session} {a : α} :
    (ofExcept result).exec before = (.ok a, after) ↔ result = .ok a ∧ after = before := by
  rw [exec_ofExcept, Prod.mk.injEq, @eq_comm _ after before]

/-- Two operations succeed exactly when the first does and the second does after it. -/
theorem exec_bind_eq_ok_iff {build : Build α} {next : α → Build β} {before after : Session}
    {b : β} :
    (build >>= next).exec before = (.ok b, after) ↔
      ∃ a between, build.exec before = (.ok a, between) ∧
        (next a).exec between = (.ok b, after) := by
  rw [exec_bind]
  rcases build.exec before with ⟨e | a, between⟩
  · simp
  · constructor
    · intro h
      exact ⟨a, between, rfl, h⟩
    · rintro ⟨_, _, heq, h⟩
      obtain ⟨ha, rfl⟩ := Prod.mk.inj heq
      exact Except.ok.inj ha ▸ h

/-- Two operations fail exactly when the first does or the second does after it. -/
theorem exec_bind_eq_error_iff {build : Build α} {next : α → Build β} {before after : Session}
    {e : Error} :
    (build >>= next).exec before = (.error e, after) ↔
      build.exec before = (.error e, after) ∨
        ∃ a between, build.exec before = (.ok a, between) ∧
          (next a).exec between = (.error e, after) := by
  rw [exec_bind]
  rcases build.exec before with ⟨e' | a, between⟩
  · simp
  · constructor
    · intro h
      exact Or.inr ⟨a, between, rfl, h⟩
    · rintro (h | ⟨_, _, heq, h⟩)
      · cases h
      · obtain ⟨ha, rfl⟩ := Prod.mk.inj heq
        exact Except.ok.inj ha ▸ h

end Build

/-- The engine accepts calls one after the other, each of them after those before it. -/
def Engine.AcceptsAll (engine : Engine) : List EngineCall → List EngineCall → Prop
  | _, [] => True
  | accepted, c :: rest =>
    engine.verdict accepted c = .ok () ∧ engine.AcceptsAll (accepted ++ [c]) rest

/-- Calls that no engine refuses are accepted after any others. -/
theorem Engine.acceptsAll_of_total (engine : Engine) {calls : List EngineCall}
    (hcalls : ∀ c ∈ calls, c.mayFail = false) (accepted : List EngineCall) :
    engine.AcceptsAll accepted calls := by
  induction calls generalizing accepted with
  | nil => trivial
  | cons c rest ih =>
    obtain ⟨hc, hrest⟩ := List.forall_mem_cons.1 hcalls
    exact ⟨engine.total accepted c hc, ih hrest _⟩

/-- The engine accepts the first calls of a list and refuses the next one with an error. -/
def Engine.RefusesAfter (engine : Engine) (before calls accepted : List EngineCall)
    (e : Error) : Prop :=
  ∃ c rest, calls = accepted ++ c :: rest ∧ engine.AcceptsAll before accepted ∧
    engine.verdict (before ++ accepted) c = .error e

/-- The session after calls that the engine has accepted. -/
def Session.afterCalls (session : Session) (accepted : List EngineCall) : Session :=
  { session with calls := session.calls ++ accepted }

/-- The session after a draft: it has the calls and one number more. -/
def Session.afterDraft (session : Session) (draft : Draft) : Session :=
  { session with nextId := session.nextId + 1, calls := session.calls ++ draft.calls }

namespace Planner

variable {planner : Planner} {before after : Session}

/-- The engine is called exactly when it accepts the call, which is then remembered. -/
theorem exec_call_eq_ok_iff {c : EngineCall} :
    (planner.call c).exec before = (.ok (), after) ↔
      planner.engine.verdict before.calls c = .ok () ∧
        after = { before with calls := before.calls ++ [c] } := by
  rcases hverdict : planner.engine.verdict before.calls c with e | ⟨⟩
  · rw [exec_call_of_refused hverdict]
    simp
  · rw [exec_call_of_accepted hverdict]
    simp [eq_comm]

/-- A call fails exactly when the engine refuses it. -/
theorem exec_call_eq_error_iff {c : EngineCall} {e : Error} :
    (planner.call c).exec before = (.error e, after) ↔
      planner.engine.verdict before.calls c = .error e ∧ after = before := by
  rcases hverdict : planner.engine.verdict before.calls c with e' | ⟨⟩
  · rw [exec_call_of_refused hverdict]
    simp [eq_comm]
  · rw [exec_call_of_accepted hverdict]
    simp

/-- A list of calls goes through exactly when the engine accepts each of them. -/
theorem exec_callAll_eq_ok_iff {calls : List EngineCall} :
    (planner.callAll calls).exec before = (.ok (), after) ↔
      planner.engine.AcceptsAll before.calls calls ∧ after = before.afterCalls calls := by
  induction calls generalizing before with
  | nil =>
    rw [callAll, Build.exec_pure]
    simp [Engine.AcceptsAll, Session.afterCalls, eq_comm]
  | cons c rest ih =>
    rw [callAll, Build.exec_bind_eq_ok_iff]
    constructor
    · rintro ⟨⟨⟩, between, hfirst, hrest⟩
      obtain ⟨hc, rfl⟩ := exec_call_eq_ok_iff.1 hfirst
      obtain ⟨hall, rfl⟩ := ih.1 hrest
      refine ⟨⟨hc, hall⟩, ?_⟩
      simp [Session.afterCalls, List.append_assoc]
    · rintro ⟨⟨hc, hrest⟩, rfl⟩
      refine ⟨(), _, exec_call_eq_ok_iff.2 ⟨hc, rfl⟩, ih.2 ⟨hrest, ?_⟩⟩
      simp [Session.afterCalls, List.append_assoc]

/-- A list of calls ends with an error exactly when the engine refuses one of them with that
error; those before it are remembered. -/
theorem exec_callAll_eq_error_iff {calls : List EngineCall} {e : Error} :
    (planner.callAll calls).exec before = (.error e, after) ↔
      ∃ accepted, planner.engine.RefusesAfter before.calls calls accepted e ∧
        after = before.afterCalls accepted := by
  induction calls generalizing before with
  | nil =>
    rw [callAll, Build.exec_pure]
    simp [Engine.RefusesAfter]
  | cons c rest ih =>
    rw [callAll, Build.exec_bind_eq_error_iff]
    constructor
    · rintro (hfirst | ⟨⟨⟩, between, hfirst, hrest⟩)
      · obtain ⟨hverdict, rfl⟩ := exec_call_eq_error_iff.1 hfirst
        refine ⟨[], ⟨c, rest, rfl, trivial, ?_⟩, ?_⟩
        · rwa [List.append_nil]
        · rw [Session.afterCalls, List.append_nil]
      · obtain ⟨hc, rfl⟩ := exec_call_eq_ok_iff.1 hfirst
        obtain ⟨accepted, ⟨d, others, rfl, haccepted, hverdict⟩, rfl⟩ := ih.1 hrest
        refine ⟨c :: accepted, ⟨d, others, rfl, ⟨hc, haccepted⟩, ?_⟩, ?_⟩
        · rwa [List.append_cons]
        · simp [Session.afterCalls, List.append_assoc]
    · rintro ⟨_ | ⟨d, accepted⟩, ⟨r, others, hcalls, haccepted, hverdict⟩, rfl⟩
      · obtain ⟨rfl, rfl⟩ := List.cons.inj hcalls
        left
        rw [List.append_nil] at hverdict
        rw [Session.afterCalls, List.append_nil]
        exact exec_call_eq_error_iff.2 ⟨hverdict, rfl⟩
      · obtain ⟨rfl, rfl⟩ := List.cons.inj hcalls
        right
        refine ⟨(), _, exec_call_eq_ok_iff.2 ⟨haccepted.1, rfl⟩, ih.2 ⟨accepted,
          ⟨r, others, rfl, haccepted.2, ?_⟩, ?_⟩⟩
        · rwa [List.append_cons] at hverdict
        · simp [Session.afterCalls, List.append_assoc]

/-- A draft is carried out exactly when it succeeds and the engine accepts its calls; its
node has the next number. -/
theorem exec_carryOut_eq_ok_iff {result : Except Error Draft} {node : PlanNode} :
    (planner.carryOut result).exec before = (.ok node, after) ↔
      ∃ draft, result = .ok draft ∧ planner.engine.AcceptsAll before.calls draft.calls ∧
        node = draft.node ⟨before.nextId⟩ ∧ after = before.afterDraft draft := by
  rw [carryOut, Build.exec_bind_eq_ok_iff]
  constructor
  · rintro ⟨draft, between, hdraft, hcommit⟩
    obtain ⟨rfl, rfl⟩ := Build.exec_ofExcept_eq_ok_iff.1 hdraft
    rw [commit, Build.exec_bind_eq_ok_iff] at hcommit
    obtain ⟨⟨⟩, called, hcalls, hnode⟩ := hcommit
    obtain ⟨hall, rfl⟩ := exec_callAll_eq_ok_iff.1 hcalls
    obtain ⟨hnode, hafter⟩ := Prod.mk.inj hnode
    exact ⟨draft, rfl, hall, (Except.ok.inj hnode).symm, hafter.symm⟩
  · rintro ⟨draft, rfl, hall, rfl, rfl⟩
    refine ⟨draft, before, rfl, ?_⟩
    rw [commit, Build.exec_bind_eq_ok_iff]
    exact ⟨(), _, exec_callAll_eq_ok_iff.2 ⟨hall, rfl⟩, rfl⟩

/-- The calls of a draft that no engine refuses are carried out in every session. -/
theorem exec_carryOut_of_total (planner : Planner) {result : Except Error Draft} {draft : Draft}
    (hdraft : result = .ok draft) (hcalls : ∀ c ∈ draft.calls, c.mayFail = false)
    (session : Session) :
    (planner.carryOut result).exec session =
      (.ok (draft.node ⟨session.nextId⟩), session.afterDraft draft) :=
  exec_carryOut_eq_ok_iff.2
    ⟨draft, hdraft, planner.engine.acceptsAll_of_total hcalls _, rfl, rfl⟩

/-- A grouping is returned exactly when its draft succeeds and the engine accepts its calls. -/
theorem exec_groupBy_eq_ok_iff {input : PlanNode} {parts : List Expr} {encoding : String}
    {grouped : GroupedStream} :
    (planner.groupBy input parts encoding).exec before = (.ok grouped, after) ↔
      ∃ draft, planner.draftGroup input parts encoding = .ok draft ∧
        planner.engine.AcceptsAll before.calls draft.calls ∧
        grouped = draft.grouped ∧ after = before.afterCalls draft.calls := by
  rw [groupBy, Build.exec_bind_eq_ok_iff]
  constructor
  · rintro ⟨draft, between, hdraft, h⟩
    obtain ⟨hgroup, rfl⟩ := Build.exec_ofExcept_eq_ok_iff.1 hdraft
    obtain ⟨⟨⟩, called, hcalls, hresult⟩ := Build.exec_bind_eq_ok_iff.1 h
    obtain ⟨hall, rfl⟩ := exec_callAll_eq_ok_iff.1 hcalls
    obtain ⟨hgrouped, hafter⟩ := Prod.mk.inj hresult
    exact ⟨draft, hgroup, hall, (Except.ok.inj hgrouped).symm, hafter.symm⟩
  · rintro ⟨draft, hdraft, hall, rfl, rfl⟩
    refine ⟨draft, before, Build.exec_ofExcept_eq_ok_iff.2 ⟨hdraft, rfl⟩, ?_⟩
    rw [Build.exec_bind_eq_ok_iff]
    exact ⟨(), _, exec_callAll_eq_ok_iff.2 ⟨hall, rfl⟩, rfl⟩

/-- The topic of a sink, as the engine is told of it. -/
def topicFor (planner : Planner) (input : PlanNode) (request : SinkRequest) : SinkTopic :=
  let sink := planner.sinkFor input request
  ⟨sink.topic, sink.encoding, sink.partitions, sink.replicas⟩

/-- A sink is attached exactly when its checks pass and the engine accepts its calls. -/
theorem exec_intoSink_eq_ok_iff {input : PlanNode} {request : SinkRequest}
    {sink : SinkAttachment} :
    (planner.intoSink input request).exec before = (.ok sink, after) ↔
      requireSink before input request = .ok () ∧
        planner.engine.AcceptsAll before.calls
          (sinkCalls input (planner.topicFor input request)) ∧
        sink = planner.sinkFor input request ∧
        after =
          { before.afterCalls (sinkCalls input (planner.topicFor input request)) with
            sinks := insertSink sink before.sinks
            written :=
              before.written ++ [(sink.topic, sinkPipeline input ⟨request.dropped⟩)] } := by
  rw [intoSink, Build.exec_bind]
  change (Build.ofExcept (requireSink before input request) >>= _).exec before = _ ↔ _
  rw [Build.exec_bind_eq_ok_iff]
  constructor
  · rintro ⟨⟨⟩, between, hchecked, h⟩
    obtain ⟨hchecks, rfl⟩ := Build.exec_ofExcept_eq_ok_iff.1 hchecked
    obtain ⟨⟨⟩, called, hcalls, hresult⟩ := Build.exec_bind_eq_ok_iff.1 h
    obtain ⟨hall, rfl⟩ := exec_callAll_eq_ok_iff.1 hcalls
    obtain ⟨hsink, hafter⟩ := Prod.mk.inj hresult
    obtain rfl := Except.ok.inj hsink
    exact ⟨hchecks, hall, rfl, hafter.symm⟩
  · rintro ⟨hchecks, hall, rfl, rfl⟩
    refine ⟨(), before, Build.exec_ofExcept_eq_ok_iff.2 ⟨hchecks, rfl⟩, ?_⟩
    rw [Build.exec_bind_eq_ok_iff]
    exact ⟨(), _, exec_callAll_eq_ok_iff.2 ⟨hall, rfl⟩, rfl⟩

end Planner

end StreamPlan
