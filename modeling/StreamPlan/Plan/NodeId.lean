/-!
# Node identities

Every node of a plan has a number, unique within the session that built it.
-/

namespace StreamPlan

/-- The identity of a plan node. -/
structure NodeId where
  index : Nat
deriving DecidableEq, Repr

/-- The name of a node. -/
def NodeId.text (id : NodeId) : String := "node-" ++ toString id.index

/-- The identity of a node in messages. -/
def NodeId.debugText (id : NodeId) : String := "NodeId(" ++ toString id.index ++ ")"

end StreamPlan
