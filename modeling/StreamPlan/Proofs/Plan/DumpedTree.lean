import Mathlib.Data.List.Forall2
import StreamPlan.Plan.Explain

/-!
# The tree that a plan dump shows

A plan unfolds into a tree: every node stands over the trees of its inputs, left before right, an
input that is used twice stands there twice, and the mark of a sink stands over the node it is
attached to.  Dumping a plan under no indent lists this tree in preorder, each line behind two
tabs for every level.  A dump writes the first half of these tabs before it asks for the line and
hands the other half on as the indent; the invariant of the induction is that both halves have one
tab for every level.

Main results:

- `PlanTree.preorder`: the lines of a tree with their levels.
- `PlanTree.eq_of_preorder_eq`: the lines with their levels determine the tree.
- `listsTree_nodeDump`: what the dump of one node adds to the dumps of its inputs.
- `PlanNode.listsTree_explain`: the dump of a plan under any indent.
- `PlanNode.showsTree_explain`: the dump of a plan.
-/

namespace StreamPlan

/-! ## Trees and their lines -/

/-- A plan as a tree of operators, each with the schema that its line shows. -/
inductive PlanTree where
  | node (kind : PlanKind) (schema : Schema) (inputs : List PlanTree)

/-- A line of a plan dump with its level, which is zero at the root. -/
structure PlanLine where
  depth : Nat
  kind : PlanKind
  schema : Schema

/-- A number of tabs. -/
def tabs (n : Nat) : String := String.ofList (List.replicate n '\t')

/-- The text of a line: two tabs for every level, the operator and the schema. -/
def PlanLine.text (line : PlanLine) : String :=
  tabs (2 * line.depth) ++ " > [ " ++ line.kind.text ++ " ] Schema: " ++ line.schema.text ++ "." ++
    "\n"

namespace PlanTree

mutual

/-- The lines of a tree with its root at a level: the root, and then the trees of its inputs one
level deeper, in their order. -/
def preorder (depth : Nat) : PlanTree → List PlanLine
  | node kind schema inputs => ⟨depth, kind, schema⟩ :: preorderAll (depth + 1) inputs

/-- The lines of some trees, one tree after the other. -/
def preorderAll (depth : Nat) : List PlanTree → List PlanLine
  | [] => []
  | tree :: rest => tree.preorder depth ++ preorderAll depth rest

end

/-- The tree of a node under its sink, if it has one. -/
def underSink (sink : Option Schema) (tree : PlanTree) : PlanTree :=
  match sink with
  | some written => node .sink written [tree]
  | none => tree

end PlanTree

/-- A plan unfolded as a tree; `sinkOf` gives the schema written for a node. -/
def PlanNode.tree (sinkOf : NodeId → Option Schema) : PlanNode → PlanTree
  | source head _ => (PlanTree.node .source head.schema []).underSink (sinkOf head.id)
  | project head input _ =>
    (PlanTree.node .project head.schema [input.tree sinkOf]).underSink (sinkOf head.id)
  | filter head input _ =>
    (PlanTree.node .filter head.schema [input.tree sinkOf]).underSink (sinkOf head.id)
  | rekey head input _ =>
    (PlanTree.node .rekey head.schema [input.tree sinkOf]).underSink (sinkOf head.id)
  | join head left right .. =>
    (PlanTree.node .join head.schema [left.tree sinkOf, right.tree sinkOf]).underSink
      (sinkOf head.id)
  | aggregate head input .. =>
    (PlanTree.node .aggregate head.schema [input.tree sinkOf]).underSink (sinkOf head.id)
  | toStream head input =>
    (PlanTree.node .toStream head.schema [input.tree sinkOf]).underSink (sinkOf head.id)

/-- A node stands over the trees of its inputs, and its sink over the node. -/
theorem PlanNode.tree_eq (sinkOf : NodeId → Option Schema) (node : PlanNode) :
    node.tree sinkOf =
      (PlanTree.node node.kind node.schema
        (node.inputs.map fun input => input.tree sinkOf)).underSink (sinkOf node.id) := by
  cases node <;> rfl

/-! ## The lines determine the tree -/

namespace PlanTree

/-- Induction over trees: a property that passes from the inputs to the node holds of every
tree. -/
theorem induct {motive : PlanTree → Prop}
    (node : ∀ kind schema inputs, (∀ input ∈ inputs, motive input) →
      motive (node kind schema inputs))
    (tree : PlanTree) : motive tree :=
  PlanTree.rec (motive_1 := motive) (motive_2 := fun trees => ∀ input ∈ trees, motive input)
    node
    (fun _ h => absurd h List.not_mem_nil)
    (fun _ _ hhead htail input h => by
      rcases List.mem_cons.1 h with rfl | h
      · exact hhead
      · exact htail input h)
    tree

/-- The line that follows, if there is one, is less deep than the level. -/
def ClosesAt (depth : Nat) (rest : List PlanLine) : Prop :=
  ∀ line ∈ rest.head?, line.depth < depth

/-- What closes a level begins with a line above it. -/
@[simp] theorem closesAt_cons {depth : Nat} {line : PlanLine} {rest : List PlanLine} :
    ClosesAt depth (line :: rest) ↔ line.depth < depth := by
  simp [ClosesAt]

/-- The lines of a tree with its root at a level, and where they end among other lines, determine
the tree: the lines that follow are no deeper than the root. -/
def Readable (tree : PlanTree) : Prop :=
  ∀ ⦃depth : Nat⦄ ⦃other : PlanTree⦄ ⦃rest rest' : List PlanLine⦄, ClosesAt (depth + 1) rest →
    ClosesAt (depth + 1) rest' →
    tree.preorder depth ++ rest = other.preorder depth ++ rest' → tree = other ∧ rest = rest'

/-- Behind the lines of trees at a level, lines that close the level close the next one too. -/
theorem closesAt_preorderAll {depth : Nat} {trees : List PlanTree} {rest : List PlanLine}
    (h : ClosesAt depth rest) : ClosesAt (depth + 1) (preorderAll depth trees ++ rest) := by
  cases trees with
  | nil =>
    intro line hline
    have hdepth := h line (by simpa [preorderAll] using hline)
    omega
  | cons tree trees =>
    cases tree
    simp [preorderAll, preorder]

/-- Readable trees are read one after the other. -/
theorem eq_of_preorderAll_append_eq {depth : Nat} {trees others : List PlanTree}
    {rest rest' : List PlanLine} (htrees : ∀ tree ∈ trees, tree.Readable)
    (hrest : ClosesAt depth rest) (hrest' : ClosesAt depth rest')
    (h : preorderAll depth trees ++ rest = preorderAll depth others ++ rest') :
    trees = others ∧ rest = rest' := by
  induction trees generalizing others with
  | nil =>
    cases others with
    | nil => simpa [preorderAll] using h
    | cons other others =>
      cases other
      simp [preorderAll, preorder] at h
      simp [h] at hrest
  | cons tree trees ih =>
    cases others with
    | nil =>
      cases tree
      simp [preorderAll, preorder] at h
      simp [← h] at hrest'
    | cons other others =>
      simp only [preorderAll, List.append_assoc] at h
      have hsplit := htrees tree (by simp) (closesAt_preorderAll hrest)
        (closesAt_preorderAll hrest') h
      have htail := ih (fun t ht => htrees t (by simp [ht])) hsplit.2
      simp [hsplit.1, htail]

/-- Every tree is readable. -/
theorem readable (tree : PlanTree) : tree.Readable := by
  induction tree using induct with
  | node kind schema inputs ih =>
    intro depth other rest rest' hrest hrest' h
    obtain ⟨kind', schema', inputs'⟩ := other
    simp only [preorder, List.cons_append, List.cons.injEq, PlanLine.mk.injEq, true_and] at h
    have hinputs := eq_of_preorderAll_append_eq ih hrest hrest' h.2
    simp [h.1, hinputs]

/-- The lines with their levels determine the tree. -/
theorem eq_of_preorder_eq {depth : Nat} {tree other : PlanTree}
    (h : tree.preorder depth = other.preorder depth) : tree = other := by
  have hclosed : ClosesAt (depth + 1) [] := by simp [ClosesAt]
  exact (tree.readable hclosed hclosed (by simpa using h)).1

end PlanTree

/-! ## Indents -/

/-- One more tab in front. -/
theorem tabs_succ (n : Nat) : tabs (n + 1) = "\t" ++ tabs n := by
  rw [← String.toList_inj]
  simp [tabs, List.replicate_succ]

/-- One more tab at the end. -/
theorem tabs_append_tab (n : Nat) : tabs n ++ "\t" = tabs (n + 1) := by
  rw [← String.toList_inj]
  simp [tabs, List.replicate_succ']

/-- A line under the tabs of its level stands behind twice as many. -/
theorem tabs_append_planLine (depth : Nat) (kind : PlanKind) (schema : Schema) :
    tabs depth ++ planLine (tabs depth) kind schema = (PlanLine.mk depth kind schema).text := by
  have htabs : tabs (2 * depth) = tabs depth ++ tabs depth := by
    rw [← String.toList_inj]
    simp [tabs, Nat.two_mul]
  rw [← String.toList_inj]
  simp [planLine, PlanLine.text, htabs]

/-! ## Dumps list trees -/

/-- The text of some lines. -/
def linesText (lines : List PlanLine) : String := String.join (lines.map PlanLine.text)

/-- A dump lists a tree: at every level, behind the tabs of the level and under an indent of as
many tabs, it writes the lines of the tree. -/
def ListsTree (dump : String → String) (tree : PlanTree) : Prop :=
  ∀ depth : Nat, tabs depth ++ dump (tabs depth) = linesText (tree.preorder depth)

/-- The inputs of an operator are listed one after the other, one level deeper. -/
theorem join_inputs {inputs : List (String → String)} {trees : List PlanTree}
    (h : List.Forall₂ ListsTree inputs trees) (depth : Nat) :
    String.join (inputs.map fun input => "\t" ++ tabs depth ++ input (tabs depth ++ "\t")) =
      linesText (PlanTree.preorderAll (depth + 1) trees) := by
  induction h with
  | nil => rfl
  | cons hinput _ ih =>
    have hline := hinput (depth + 1)
    rw [List.map_cons, String.join_cons, ih, ← tabs_succ, tabs_append_tab, hline]
    simp [PlanTree.preorderAll, linesText]

/-- The dump of an operator lists the operator over the trees of its inputs. -/
theorem listsTree_operatorDump {inputs : List (String → String)} {trees : List PlanTree}
    (h : List.Forall₂ ListsTree inputs trees) (kind : PlanKind) (schema : Schema) :
    ListsTree (operatorDump kind schema inputs) (.node kind schema trees) := by
  intro depth
  rw [operatorDump, join_inputs h, ← String.append_assoc, tabs_append_planLine]
  simp [PlanTree.preorder, linesText]

/-- The dump of a node lists the operator under the sink of the node. -/
theorem listsTree_nodeDump {inputs : List (String → String)} {trees : List PlanTree}
    (h : List.Forall₂ ListsTree inputs trees) (sink : Option Schema) (kind : PlanKind)
    (schema : Schema) :
    ListsTree (nodeDump sink kind schema inputs)
      ((PlanTree.node kind schema trees).underSink sink) := by
  have hoperator := listsTree_operatorDump h kind schema
  cases sink with
  | none => exact hoperator
  | some written =>
    -- The line of the sink is written as an operator with the node as its only input.
    have hsink := listsTree_operatorDump (.cons hoperator .nil) .sink written
    intro depth
    rw [PlanTree.underSink, ← hsink depth]
    simp [nodeDump, operatorDump, String.append_assoc]

namespace PlanNode

/-- Induction over plans: a property that passes from the inputs of a node to the node holds of
every node. -/
theorem induct_inputs {motive : PlanNode → Prop}
    (step : ∀ node : PlanNode, (∀ input ∈ node.inputs, motive input) → motive node)
    (node : PlanNode) : motive node := by
  induction node with
  | source => exact step _ (by simp [inputs])
  | join _ _ _ _ _ _ hleft hright => exact step _ (by simp [inputs, hleft, hright])
  | project _ _ _ ih | filter _ _ _ ih | rekey _ _ _ ih | aggregate _ _ _ _ ih | toStream _ _ ih =>
    exact step _ (by simpa [inputs] using ih)

/-- The dump of a node in terms of the dumps of its inputs. -/
theorem explain_eq (sinkOf : NodeId → Option Schema) (node : PlanNode) :
    node.explain sinkOf =
      nodeDump (sinkOf node.id) node.kind node.schema
        (node.inputs.map fun input => input.explain sinkOf) := by
  cases node <;> rfl

/-- The dump of a node lists the tree of its plan. -/
theorem listsTree_explain (sinkOf : NodeId → Option Schema) (node : PlanNode) :
    ListsTree (node.explain sinkOf) (node.tree sinkOf) := by
  induction node using induct_inputs with
  | step node ih =>
    rw [explain_eq, tree_eq]
    apply listsTree_nodeDump
    simpa [List.forall₂_map_left_iff, List.forall₂_map_right_iff, List.forall₂_same] using ih

end PlanNode

/-- The dump of a plan shows a tree: it is the text of the lines of the tree, and no other tree has
these lines. -/
structure ShowsTree (dump : String) (tree : PlanTree) : Prop where
  lines : dump = linesText (tree.preorder 0)
  determined : ∀ other : PlanTree, other.preorder 0 = tree.preorder 0 → other = tree

/-- Under no indent a plan is dumped as the tree it unfolds into, with the marks of its sinks. -/
theorem PlanNode.showsTree_explain (sinkOf : NodeId → Option Schema) (node : PlanNode) :
    ShowsTree (node.explain sinkOf "") (node.tree sinkOf) where
  lines := by
    have h := node.listsTree_explain sinkOf 0
    simpa [tabs] using h
  determined _ h := PlanTree.eq_of_preorder_eq h

end StreamPlan
