import StreamPlan.Error
import StreamPlan.Join
import StreamPlan.KeyField

/-!
# The engine

Planning calls the operators of an engine.  An engine may refuse a source or a
sink, also because of what it was asked before; all other operators always succeed.

Main results:

- `EngineCall.text`: the text of a call.
- `Engine.namedTopics`: an engine that refuses topics without a name.
-/

namespace StreamPlan

/-- The output topic of a sink. -/
structure SinkTopic where
  name : String
  encoding : String
  partitions : UInt32
  replicas : UInt16
deriving DecidableEq, Repr

/-- A call of an engine operator. -/
inductive EngineCall where
  | streamSource (topic : String) (width : Nat)
  | tableSource (topic : String) (width : Nat)
  | filter
  | filterTable
  | mapValues
  | mapTableValues
  | selectKey
  | groupByKey (format : KeyFormat) (encoding : String)
  | groupBy (format : KeyFormat) (encoding : String)
  | aggregate
  | streamTableJoin (kind : JoinKind) (left right : String)
  | streamStreamJoin (kind : JoinKind) (window : JoinWindow) (left right : String)
  | tableToStream
  | toSink (topic : SinkTopic)
deriving DecidableEq, Repr

namespace EngineCall

/-- The text of a call: the operator and its parameters. -/
def text : EngineCall → String
  | streamSource topic width => "stream_source " ++ topic ++ " " ++ toString width
  | tableSource topic width => "table_source " ++ topic ++ " " ++ toString width
  | filter => "filter"
  | filterTable => "filter_table"
  | mapValues => "map_values"
  | mapTableValues => "map_table_values"
  | selectKey => "select_key"
  | groupByKey format encoding => "group_by_key " ++ format.text ++ " " ++ encoding
  | groupBy format encoding => "group_by " ++ format.text ++ " " ++ encoding
  | aggregate => "aggregate"
  | streamTableJoin kind left right =>
    "stream_table_join " ++ kind.text ++ " " ++ left ++ " " ++ right
  | streamStreamJoin kind window left right =>
    "stream_stream_join " ++ kind.text ++ " " ++ toString window.before.toMillis ++ " " ++
      toString window.after.toMillis ++ " " ++ left ++ " " ++ right
  | tableToStream => "table_to_stream"
  | toSink topic =>
    "to_sink " ++ topic.name ++ " " ++ topic.encoding ++ " " ++
      toString topic.partitions.toNat ++ " " ++ toString topic.replicas.toNat

/-- Whether an engine may refuse the call. -/
def mayFail : EngineCall → Bool
  | streamSource .. | tableSource .. | toSink _ => true
  | _ => false

end EngineCall

/-- An engine, seen from planning: which calls it refuses after those it has accepted. -/
structure Engine where
  verdict : List EngineCall → EngineCall → Except Error Unit
  total : ∀ accepted call, call.mayFail = false → verdict accepted call = .ok ()

namespace Engine

/-- The refusal of a topic without a name. -/
def requireTopic (operator topic : String) : Except Error Unit :=
  if topic.isEmpty then .error (.reported .execution (operator ++ ": empty topic name"))
  else .ok ()

/-- An engine that refuses topics without a name. -/
def namedTopics : Engine where
  verdict
    | _, .streamSource topic _ => requireTopic "stream_source" topic
    | _, .tableSource topic _ => requireTopic "table_source" topic
    | _, .toSink topic => requireTopic "to_sink" topic.name
    | _, _ => .ok ()
  total _ call h := by
    cases call <;> simp_all [EngineCall.mayFail]

end Engine

end StreamPlan
