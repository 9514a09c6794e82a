import StreamPlan.Config
import StreamPlan.Function
import StreamPlan.Plan.Node
import StreamPlan.Plan.Engine
import StreamPlan.RowFunction.SinkColumns

/-!
# Planning sessions

A planner builds nodes in a session, which numbers the nodes, keeps the sinks, and
remembers what was asked of the engine.  A step that fails before it calls the
engine leaves the session as it was.

Main results:

- `Planner.create`: a planner with a valid configuration.
- `Planner.commit`: carrying out what an operation drafted.
- `Planner.exec_call_of_refused`: a refused call leaves the session as it was.
-/

namespace StreamPlan

/-- A sink attached to a node. -/
structure SinkAttachment where
  node : NodeId
  topic : String
  encoding : String
  dropped : IndexSet
  partitions : UInt32
  replicas : UInt16
  schema : Schema
deriving DecidableEq

/-- A planner: its engine, a valid configuration, and the functions expressions may
call. -/
structure Planner where
  engine : Engine
  config : Config
  functions : Registry
  valid : config.validate = .ok ()

/-- A planner with a configuration, which has to be valid. -/
def Planner.create (engine : Engine) (config : Config) (functions : Registry) :
    Except Error Planner :=
  match h : config.validate with
  | .ok () => .ok ⟨engine, config, functions, h⟩
  | .error e => .error e

/-- What a session holds between two operations. -/
structure Session where
  /-- The number of the next node. -/
  nextId : Nat
  /-- The sinks, in the order of their nodes. -/
  sinks : List SinkAttachment
  /-- The calls the engine has accepted so far. -/
  calls : List EngineCall
  /-- The pipelines the engine writes to topics, oldest first. -/
  written : List (String × Pipeline)

/-- A session without nodes. -/
def Session.empty : Session := ⟨0, [], [], []⟩

/-- The sink of a node. -/
def Session.sinkOf? (session : Session) (node : NodeId) : Option SinkAttachment :=
  session.sinks.find? fun sink => sink.node == node

/-- The first pipeline written to a topic. -/
def Session.writtenTo? (session : Session) (topic : String) : Option Pipeline :=
  (session.written.find? fun entry => entry.1 == topic).map (·.2)

/-- Put a sink at its place in the order of nodes. -/
def insertSink (sink : SinkAttachment) : List SinkAttachment → List SinkAttachment
  | [] => [sink]
  | other :: rest =>
    if sink.node.index < other.node.index then sink :: other :: rest
    else other :: insertSink sink rest

/-- An operation of a session: it may fail, and the session goes on either way. -/
abbrev Build := ExceptT Error (StateM Session)

/-- Carry out an operation in a session. -/
def Build.exec {α : Type} (build : Build α) (session : Session) : Except Error α × Session :=
  (ExceptT.run build).run session

/-- A result that was computed without the session. -/
def Build.ofExcept {α : Type} (result : Except Error α) : Build α := ExceptT.mk (pure result)

/-- What an operation asks of the engine, and the node it makes. -/
structure Draft where
  calls : List EngineCall
  node : NodeId → PlanNode

namespace Planner

/-- Call the engine; a refused call is not remembered. -/
def call (planner : Planner) (c : EngineCall) : Build Unit := do
  let session ← get
  Build.ofExcept (planner.engine.verdict session.calls c)
  modify fun session => { session with calls := session.calls ++ [c] }

/-- Call the engine several times, up to the first refusal. -/
def callAll (planner : Planner) : List EngineCall → Build Unit
  | [] => pure ()
  | c :: rest => do
    planner.call c
    planner.callAll rest

/-- The number of a new node. -/
def freshId : Build NodeId := do
  let session ← get
  set { session with nextId := session.nextId + 1 }
  return ⟨session.nextId⟩

/-- Carry out a draft: call the engine, then number the node. -/
def commit (planner : Planner) (draft : Draft) : Build PlanNode := do
  planner.callAll draft.calls
  let id ← freshId
  return draft.node id

/-- A refused call ends an operation and leaves the session as it was. -/
theorem exec_call_of_refused {planner : Planner} {session : Session} {c : EngineCall}
    {e : Error} (h : planner.engine.verdict session.calls c = .error e) :
    (planner.call c).exec session = (.error e, session) := by
  change ((Build.ofExcept (planner.engine.verdict session.calls c) >>= fun _ =>
    modify fun session => { session with calls := session.calls ++ [c] } : Build Unit)).exec
      session = _
  rw [h]
  rfl

/-- An accepted call is remembered. -/
theorem exec_call_of_accepted {planner : Planner} {session : Session} {c : EngineCall}
    (h : planner.engine.verdict session.calls c = .ok ()) :
    (planner.call c).exec session =
      (.ok (), { session with calls := session.calls ++ [c] }) := by
  change ((Build.ofExcept (planner.engine.verdict session.calls c) >>= fun _ =>
    modify fun session => { session with calls := session.calls ++ [c] } : Build Unit)).exec
      session = _
  rw [h]
  rfl

end Planner

end StreamPlan
