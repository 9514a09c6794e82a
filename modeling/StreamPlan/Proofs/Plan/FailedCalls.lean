import StreamPlan.Proofs.Plan.Run

/-!
# Calls that fail

An operation checks what it is asked for, then calls the engine, and only then numbers a node
or attaches a sink.  So it fails in one of two ways: a check rejects it, and then the engine is
not called at all, or the engine refuses a source or a sink.  Either way no number is used up
and no sink is attached.

Main results:

- `PlanCall.asks`: what a call asks of the engine, when its checks pass.
- `PlanCall.failsAsking_build`: the two ways in which a call fails.
- `Planner.advance_of_isRejected`: a rejected call adds nothing to a history.
- `Planner.withoutRejected`: a run without its rejected calls.
- `Planner.leavesNoTrace`: what calls that fail leave behind, one by one and in a run.
-/

namespace StreamPlan

/-! ## What a call asks of the engine -/

/-- An engine that refuses nothing. -/
def Engine.obliging : Engine := ⟨fun _ _ => .ok (), fun _ _ _ => rfl⟩

/-- A planner with another engine. -/
def Planner.withEngine (planner : Planner) (engine : Engine) : Planner :=
  { planner with engine }

namespace PlanCall

/-- The operation of a call, without its result. -/
def build (planner : Planner) : PlanCall → Build Unit
  | node call => do
    let _ ← call.build planner
    return ()
  | groupBy input parts encoding => do
    let _ ← planner.groupBy input parts encoding
    return ()
  | intoSink input request => do
    let _ ← planner.intoSink input request
    return ()

/-- Whether the checks of a call reject it: it fails on an engine that refuses nothing. -/
def isRejected (planner : Planner) (session : Session) (call : PlanCall) : Bool :=
  !((call.build (planner.withEngine .obliging)).exec session).1.isOk

/-- What a call asks of the engine, unless its checks reject it. -/
def asks (planner : Planner) (session : Session) : PlanCall → Except Error (List EngineCall)
  | node call =>
    match call.unchanged? with
    | some _ => .ok []
    | none => (call.draft planner).map (·.calls)
  | groupBy input parts encoding => (planner.draftGroup input parts encoding).map (·.calls)
  | intoSink input request =>
    (Planner.requireSink session input request).map fun _ =>
      Planner.sinkCalls input (planner.topicFor input request)

/-- What a call asks of the engine does not depend on the engine. -/
theorem asks_withEngine (planner : Planner) (engine : Engine) (session : Session)
    (call : PlanCall) :
    call.asks (planner.withEngine engine) session = call.asks planner session := by
  cases call with
  | node call => cases call <;> rfl
  | groupBy | intoSink => rfl

end PlanCall

/-! ## The two ways to fail -/

/-- An operation that no session makes fail. -/
def Build.Succeeds {α : Type} (build : Build α) : Prop :=
  ∀ session, ∃ a after, build.exec session = (.ok a, after)

/-- From a session, an operation fails exactly if its checks reject it, or the engine refuses
one of the calls that it asks for. -/
def Build.FailsAsking {α : Type} (planner : Planner) (before : Session)
    (asked : Except Error (List EngineCall)) (build : Build α) : Prop :=
  ∀ e after, build.exec before = (.error e, after) ↔
    (asked = .error e ∧ after = before) ∨
      ∃ calls accepted, asked = .ok calls ∧
        planner.engine.RefusesAfter before.calls calls accepted e ∧
        after = before.afterCalls accepted

namespace Build

variable {α β : Type} {planner : Planner} {before : Session}
  {asked : Except Error (List EngineCall)}

/-- An operation that only gives a result asks for nothing. -/
theorem failsAsking_pure (a : α) : (pure a : Build α).FailsAsking planner before (.ok []) := by
  intro e after
  rw [exec_pure]
  simp [Engine.RefusesAfter]

/-- An operation that checks, then calls the engine, and goes on without failing. -/
theorem failsAsking_checks {checks : Except Error α} {calls : α → List EngineCall}
    {rest : α → Build β} (hrest : ∀ a, (rest a).Succeeds) :
    (ofExcept checks >>= fun a => planner.callAll (calls a) >>= fun _ => rest a).FailsAsking
      planner before (checks.map calls) := by
  intro e after
  rw [exec_bind, exec_ofExcept]
  cases checks with
  | error e' => simp [Except.map, eq_comm]
  | ok a =>
    change (planner.callAll (calls a) >>= fun _ => rest a).exec before = (.error e, after) ↔ _
    rw [exec_bind_eq_error_iff, Planner.exec_callAll_eq_error_iff]
    constructor
    · rintro (⟨accepted, hrefused, rfl⟩ | ⟨⟨⟩, between, -, hfailed⟩)
      · exact Or.inr ⟨calls a, accepted, rfl, hrefused, rfl⟩
      · obtain ⟨b, ended, hsucceeds⟩ := hrest a between
        rw [hsucceeds] at hfailed
        cases hfailed
    · rintro (⟨hrejected, -⟩ | ⟨_, accepted, hasked, hrefused, rfl⟩)
      · cases hrejected
      · obtain rfl := Except.ok.inj hasked
        exact Or.inl ⟨accepted, hrefused, rfl⟩

/-- To forget the result of an operation does not change how it fails. -/
theorem exec_discard_eq_error_iff {build : Build α} {after : Session} {e : Error} :
    (build >>= fun _ => (pure () : Build Unit)).exec before = (.error e, after) ↔
      build.exec before = (.error e, after) := by
  rw [exec_bind_eq_error_iff]
  simp

/-- An operation asks for the same calls when its result is forgotten. -/
theorem FailsAsking.discard {build : Build α} (h : build.FailsAsking planner before asked) :
    (build >>= fun _ => (pure () : Build Unit)).FailsAsking planner before asked :=
  fun e after => exec_discard_eq_error_iff.trans (h e after)

end Build

namespace Planner

variable {planner : Planner} {before : Session}

/-- To carry out a draft asks for its calls. -/
theorem failsAsking_carryOut (draft : Except Error Draft) :
    (planner.carryOut draft).FailsAsking planner before (draft.map (·.calls)) :=
  Build.failsAsking_checks fun _ _ => ⟨_, _, rfl⟩

/-- A grouping asks for the calls of its draft. -/
theorem failsAsking_groupBy (input : PlanNode) (parts : List Expr) (encoding : String) :
    (planner.groupBy input parts encoding).FailsAsking planner before
      ((planner.draftGroup input parts encoding).map (·.calls)) :=
  Build.failsAsking_checks fun _ _ => ⟨_, _, rfl⟩

/-- A sink asks for the calls that write its node. -/
theorem failsAsking_intoSink (input : PlanNode) (request : SinkRequest) :
    (planner.intoSink input request).FailsAsking planner before
      ((requireSink before input request).map fun _ =>
        sinkCalls input (planner.topicFor input request)) := by
  intro e after
  rw [intoSink, Build.exec_bind]
  exact Build.failsAsking_checks (fun _ _ => ⟨_, _, rfl⟩) e after

end Planner

namespace PlanCall

variable {planner : Planner} {before after : Session} {call : PlanCall} {e : Error}

/-- Every call fails exactly if its checks reject it or the engine refuses what it asks for. -/
theorem failsAsking_build (planner : Planner) (before : Session) (call : PlanCall) :
    (call.build planner).FailsAsking planner before (call.asks planner before) := by
  cases call with
  | node call =>
    apply Build.FailsAsking.discard
    rw [call.build_eq, asks]
    cases call.unchanged? with
    | some input => exact Build.failsAsking_pure input
    | none => exact Planner.failsAsking_carryOut _
  | groupBy input parts encoding => exact (Planner.failsAsking_groupBy _ _ _).discard
  | intoSink input request => exact (Planner.failsAsking_intoSink _ _).discard

/-- The checks reject a call exactly when there is nothing that it asks of an engine. -/
theorem isRejected_iff :
    call.isRejected planner before = true ↔ ∃ e, call.asks planner before = .error e := by
  have hfails := failsAsking_build (planner.withEngine .obliging) before call
  rw [asks_withEngine] at hfails
  unfold isRejected
  rcases hexec : (call.build (planner.withEngine .obliging)).exec before with ⟨e | a, after⟩
  · obtain ⟨hasks, -⟩ | ⟨_, _, -, ⟨_, _, -, -, hrefused⟩, -⟩ := (hfails e after).1 hexec
    · exact iff_of_true rfl ⟨e, hasks⟩
    · cases hrefused
  · refine iff_of_false Bool.false_ne_true ?_
    rintro ⟨e, hasks⟩
    have hfailed := (hfails e before).2 (Or.inl ⟨hasks, rfl⟩)
    rw [hexec] at hfailed
    cases hfailed

/-- A rejected call fails on every engine, without a call of it. -/
theorem exec_build_of_isRejected (h : call.isRejected planner before = true) :
    ∃ e, ∀ engine, (call.build (planner.withEngine engine)).exec before = (.error e, before) := by
  obtain ⟨e, hasks⟩ := isRejected_iff.1 h
  refine ⟨e, fun engine => (failsAsking_build _ _ _ e before).2 (Or.inl ⟨?_, rfl⟩)⟩
  rw [asks_withEngine, hasks]

/-- A call that fails without being rejected fails because the engine refuses a source or a
sink. -/
theorem exists_refused_of_exec_build
    (h : (call.build planner).exec before = (.error e, after))
    (hrejected : call.isRejected planner before = false) :
    ∃ accepted c, c.mayFail = true ∧
      planner.engine.verdict (before.calls ++ accepted) c = .error e ∧
      after = before.afterCalls accepted := by
  obtain ⟨hasks, -⟩ | ⟨_, accepted, -, ⟨c, _, -, -, hrefused⟩, rfl⟩ :=
    (failsAsking_build _ _ _ e after).1 h
  · rw [isRejected_iff.2 ⟨e, hasks⟩] at hrejected
    cases hrejected
  · refine ⟨accepted, c, ?_, hrefused, rfl⟩
    by_contra hmay
    rw [planner.engine.total _ c (eq_false_of_ne_true hmay)] at hrefused
    cases hrefused

/-- However a call fails, all that it may leave behind is calls that the engine accepted. -/
theorem exists_afterCalls_of_exec_build
    (h : (call.build planner).exec before = (.error e, after)) :
    ∃ accepted, after = before.afterCalls accepted := by
  obtain ⟨-, rfl⟩ | ⟨_, accepted, -, -, hafter⟩ := (failsAsking_build _ _ _ e after).1 h
  · exact ⟨[], by rw [Session.afterCalls, List.append_nil]⟩
  · exact ⟨accepted, hafter⟩

end PlanCall

/-! ## Runs without rejected calls -/

namespace Planner

variable {planner : Planner} {history : History} {call : PlanCall}

/-- A call that fails adds no node and no grouping. -/
theorem advance_of_error {e : Error} {after : Session}
    (h : (call.build planner).exec history.session = (.error e, after)) :
    planner.advance history call = { history with session := after } := by
  cases call with
  | node | groupBy | intoSink => rw [advance, Build.exec_discard_eq_error_iff.1 h]

/-- A rejected call adds nothing to a history. -/
theorem advance_of_isRejected (h : call.isRejected planner history.session = true) :
    planner.advance history call = history := by
  obtain ⟨e, hfails⟩ := PlanCall.exec_build_of_isRejected h
  exact advance_of_error (hfails planner.engine)

/-- The calls of a run without those that are rejected in it. -/
def withoutRejected (planner : Planner) : History → List PlanCall → List PlanCall
  | _, [] => []
  | history, call :: rest =>
    let kept := planner.withoutRejected (planner.advance history call) rest
    if call.isRejected planner history.session then kept else call :: kept

/-- Without its rejected calls, a run ends in the same history. -/
theorem foldl_withoutRejected (history : History) (calls : List PlanCall) :
    (planner.withoutRejected history calls).foldl planner.advance history =
      calls.foldl planner.advance history := by
  induction calls generalizing history with
  | nil => rfl
  | cons call rest ih =>
    rw [withoutRejected, List.foldl_cons, ← ih]
    split
    · rename_i hrejected
      rw [advance_of_isRejected hrejected]
    · rfl

/-- What calls that fail leave behind: nothing, apart from what an engine accepted before it
refused a source or a sink. -/
structure LeavesNoTrace (planner : Planner) : Prop where
  /-- A call that fails uses up no number, attaches no sink and writes nothing. -/
  kept : ∀ {call : PlanCall} {before after : Session} {e : Error},
    (call.build planner).exec before = (.error e, after) →
    after.nextId = before.nextId ∧ after.sinks = before.sinks ∧ after.written = before.written
  /-- A rejected call fails on every engine, and does not call it. -/
  rejected : ∀ {call : PlanCall} {session : Session},
    call.isRejected planner session = true →
    ∃ e, ∀ engine, (call.build (planner.withEngine engine)).exec session = (.error e, session)
  /-- The error of any other call is that of the engine, which refuses a source or a sink. -/
  refused : ∀ {call : PlanCall} {before after : Session} {e : Error},
    (call.build planner).exec before = (.error e, after) →
    call.isRejected planner before = false →
    ∃ accepted c, c.mayFail = true ∧
      planner.engine.verdict (before.calls ++ accepted) c = .error e ∧
      after = before.afterCalls accepted
  /-- To leave out the rejected calls of a run changes nothing in its history: the nodes, the
  groupings, the next number, the sinks, and what the engine was asked. -/
  leftOut : ∀ (history : History) (calls : List PlanCall),
    (planner.withoutRejected history calls).foldl planner.advance history =
      calls.foldl planner.advance history

/-- Calls that fail leave nothing behind, for every planner. -/
theorem leavesNoTrace (planner : Planner) : planner.LeavesNoTrace where
  kept h := by
    obtain ⟨accepted, rfl⟩ := PlanCall.exists_afterCalls_of_exec_build h
    exact ⟨rfl, rfl, rfl⟩
  rejected := PlanCall.exec_build_of_isRejected
  refused := PlanCall.exists_refused_of_exec_build
  leftOut := foldl_withoutRejected

/-- Without its topic a source is refused by the engine, and with a repeated name it is
rejected: only the second of these calls is left out. -/
example :
    let source topic names : PlanCall :=
      .node (.source .stream topic ⟨names.map fun name => ⟨name, .int32⟩⟩ none .plain)
    let calls := [source "" ["A"], source "orders" ["A", "A"], source "orders" ["A", "B"]]
    standard.withoutRejected .start calls = [source "" ["A"], source "orders" ["A", "B"]] ∧
      (calls.foldl standard.advance .start).session.nextId = 1 :=
  ⟨rfl, rfl⟩

end Planner

end StreamPlan
