import StreamPlan.Proofs.Plan.KeyReuse
import StreamPlan.Proofs.Plan.RekeyedRows

/-!
# Rekeying twice

A rekey is skipped when the input is keyed by the requested name, letter by letter, while the
node of a rekey is keyed by the name of its column.  So the second of two equal rekeys is
skipped when the request spells that name out.  A request that reaches the column by its bare
name, or by an alias that the column does not carry, makes a second node over the first one;
its records are those of the first.

Main results:

- `Planner.run_rekeyPipeline_twice`: a second rekey by the same columns passes all records.
- `PlanNode.Spells`: the names under which a rekey is recognised.
- `Planner.rekey_again`: what a second rekey returns.
- `Planner.exists_rekeyed_twice`: an order number under an alias.
-/

namespace StreamPlan

/-! ## Rows -/

/-- Of two values for one column the second one stays. -/
theorem Row.set_set (row : Row) (i : Nat) (v w : Value) : (row.set i v).set i w = row.set i w := by
  by_cases hi : i < row.width
  · have hset : i < row.columns.length := hi
    simp [set, set?, width, hset]
  · simp [set, set?, hi]

namespace Rekey

variable {rekey : Rekey} {row : Row}

/-- After an update the column of the new key holds the new key or what it held before. -/
theorem get_keyIndex_updateRow (rekey : Rekey) (row : Row) :
    (rekey.updateRow row).get rekey.keyIndex = rekey.keyFor row ∨
      (rekey.updateRow row).get rekey.keyIndex = row.get rekey.keyIndex := by
  unfold updateRow
  split
  · rw [Row.get_set]
    split
    · exact Or.inl rfl
    · exact Or.inr rfl
  · exact Or.inr rfl

/-- An updated row has the same key: the text of a string is the string. -/
@[simp] theorem keyFor_updateRow (rekey : Rekey) (row : Row) :
    rekey.keyFor (rekey.updateRow row) = rekey.keyFor row := by
  unfold keyFor
  rcases rekey.get_keyIndex_updateRow row with h | h
  · rw [h]
    rfl
  · rw [h]

/-- An updated row has a value in the column of the new key when the row has. -/
theorem isNull_get_updateRow (h : (row.get rekey.keyIndex).isNull = false) :
    ((rekey.updateRow row).get rekey.keyIndex).isNull = false := by
  rcases rekey.get_keyIndex_updateRow row with hget | hget
  · rw [hget]
    rfl
  · rw [hget, h]

/-- A second update changes nothing. -/
@[simp] theorem updateRow_updateRow (rekey : Rekey) (row : Row) :
    rekey.updateRow (rekey.updateRow row) = rekey.updateRow row := by
  have hkey := rekey.keyFor_updateRow row
  unfold updateRow at hkey ⊢
  cases hindex : rekey.rowKeyIndex with
  | none => rfl
  | some i =>
    simp only [hindex] at hkey ⊢
    rw [hkey, Row.set_set]

/-- What a rekey has made, it makes again. -/
theorem rekeyed?_of_rekeyed? {record out : Record} (h : rekey.rekeyed? record = some out) :
    rekey.rekeyed? out = some out := by
  obtain ⟨before, -, hvalue, rfl⟩ := rekeyed?_eq_some_iff.1 h
  rw [rekeyed?_eq_some_iff]
  refine ⟨_, rfl, isNull_get_updateRow hvalue, ?_⟩
  rw [keyFor_updateRow, updateRow_updateRow]

end Rekey

/-- A second rekey by the same columns passes all records as they are. -/
theorem Planner.run_rekeyPipeline_twice (rekey : Rekey) (input : Pipeline)
    (records : List Record) :
    (rekeyPipeline rekey (rekeyPipeline rekey input)).run records =
      (rekeyPipeline rekey input).run records := by
  rw [run_rekeyPipeline, run_rekeyPipeline, List.filterMap_filterMap]
  refine List.filterMap_congr fun record _ => ?_
  rcases hrekeyed : rekey.rekeyed? record with _ | out
  · rfl
  · exact Rekey.rekeyed?_of_rekeyed? hrekeyed

/-! ## Names -/

/-- The column that a key request means bears the requested name exactly when some column
does. -/
theorem name_fieldAt_resolveKey {schema : Schema} {name : String} {i : Nat}
    (h : resolveKey schema name = .ok i) :
    (schema.fieldAt i).name = name ↔ name ∈ schema.names := by
  have hresolve := mapError_eq_ok_iff.1 h
  have hfield := Schema.getElem?_fieldAt (Schema.resolve_lt_width hresolve)
  constructor
  · intro hname
    exact hname ▸ Schema.name_mem_names hfield
  · intro hmem
    obtain ⟨j, hj⟩ := Schema.exists_indexOf? hmem
    obtain ⟨field, hnamed, hname⟩ := Schema.indexOf?_eq_some hj
    rw [Schema.resolve_ofName hj] at hresolve
    obtain rfl := Except.ok.inj hresolve
    rw [Schema.fieldAt, hnamed, Option.getD_some, hname]

namespace PlanNode

/-- A name is that of the key or, letter by letter, that of a column. -/
def Spells (node : PlanNode) (name : String) : Prop :=
  node.isKeyedBy name = true ∨ name ∈ node.schema.names

instance (node : PlanNode) (name : String) : Decidable (node.Spells name) :=
  inferInstanceAs (Decidable (_ ∨ _))

/-- A rekey of a rekeyed node that changes nothing: it has the schema and the key of its input,
and yields the same records. -/
structure RepeatsRekey (again node : PlanNode) : Prop where
  kind : again.kind = .rekey
  inputs : again.inputs = [node]
  schema : again.schema = node.schema
  keyField : again.keyField = node.keyField
  keyFormat : again.keyFormat = node.keyFormat
  form : again.form = node.form
  run : ∀ records, again.pipeline.run records = node.pipeline.run records

end PlanNode

namespace Planner

variable {planner : Planner} {input node : PlanNode} {request : KeyField} {updateRowKey : Bool}
  {before after : Session}

/-- A node that is keyed by a name is returned when a rekey asks for that name. -/
theorem exec_rekey_of_isKeyedBy (planner : Planner) (updateRowKey : Bool)
    (h : node.isKeyedBy request.name = true) (session : Session) :
    (planner.rekey node request updateRowKey).exec session = (.ok node, session) :=
  exec_rekey_eq_ok_iff.2 (Or.inl ⟨h, rfl, rfl⟩)

/-- The node of a rekey is keyed by the requested name exactly when a column bears it. -/
theorem isKeyedBy_rekeyedNode {rekey : Rekey} {id : NodeId}
    (h : planner.RekeysBy input.schema request updateRowKey rekey) :
    (rekeyedNode input request rekey id).isKeyedBy request.name = true ↔
      request.name ∈ input.schema.names := by
  rw [PlanNode.isKeyedBy_iff, ← name_fieldAt_resolveKey h.1]
  constructor
  · rintro ⟨key, hkey, hname⟩
    obtain rfl := Option.some.inj hkey
    exact hname
  · intro hname
    exact ⟨_, rfl, hname⟩

/-- Another rekey by the same columns repeats the first one. -/
theorem repeatsRekey_rekeyedNode (input : PlanNode) (request : KeyField) (rekey : Rekey)
    (first second : NodeId) :
    (rekeyedNode (rekeyedNode input request rekey first) request rekey second).RepeatsRekey
      (rekeyedNode input request rekey first) where
  kind := rfl
  inputs := rfl
  schema := rfl
  keyField := rfl
  keyFormat := rfl
  form := rfl
  run := run_rekeyPipeline_twice rekey input.pipeline

/-- After a rekey, in any session, the same rekey returns its node as it is and leaves the
session alone, exactly when the request spells the name of the key of the input or of one of
its columns.  Otherwise it makes one more node, which repeats the first, with the same calls.
The name of the key that the node has is recognised whatever else is requested. -/
theorem rekey_again
    (returned : (planner.rekey input request updateRowKey).exec before = (.ok node, after)) :
    (∀ later, (planner.rekey node request updateRowKey).exec later = (.ok node, later) ↔
      input.Spells request.name) ∧
    (¬ input.Spells request.name → ∀ later, ∃ again,
      (planner.rekey node request updateRowKey).exec later =
        (.ok again,
          { later with
            nextId := later.nextId + 1
            calls := later.calls ++ rekeyCalls updateRowKey }) ∧
      again.id = ⟨later.nextId⟩ ∧ again.RepeatsRekey node) ∧
    ∃ key, node.keyField = some key ∧ ∀ (other : KeyField) (updateOther : Bool) later,
      other.name = key.name →
        (planner.rekey node other updateOther).exec later = (.ok node, later) := by
  have hrecognised : ∀ {key : KeyField}, node.keyField = some key →
      ∀ (other : KeyField) (updateOther : Bool) later, other.name = key.name →
        (planner.rekey node other updateOther).exec later = (.ok node, later) := by
    intro key hkey other updateOther later hname
    exact planner.exec_rekey_of_isKeyedBy updateOther
      (PlanNode.isKeyedBy_iff.2 ⟨key, hkey, hname.symm⟩) later
  rcases exec_rekey_eq_ok_iff.1 returned with
    ⟨hkeyed, rfl, -⟩ | ⟨hkeyed, hstream, rekey, hby, rfl, -⟩
  · -- The first rekey was skipped, and so is every other one.
    obtain ⟨key, hkey, -⟩ := PlanNode.isKeyedBy_iff.1 hkeyed
    refine ⟨fun later => ?_, fun hspells => absurd (Or.inl hkeyed) hspells, key, hkey,
      hrecognised hkey⟩
    exact iff_of_true (planner.exec_rekey_of_isKeyedBy updateRowKey hkeyed later) (Or.inl hkeyed)
  · have hspells : input.Spells request.name ↔
        (rekeyedNode input request rekey ⟨before.nextId⟩).isKeyedBy request.name = true := by
      rw [isKeyedBy_rekeyedNode hby, PlanNode.Spells, or_iff_right hkeyed]
    refine ⟨fun later => ?_, fun hnot later => ?_, _, rfl, hrecognised rfl⟩
    · rw [hspells]
      constructor
      · exact isKeyedBy_of_rekey_unchanged
      · intro h
        exact planner.exec_rekey_of_isKeyedBy updateRowKey h later
    · rw [hspells] at hnot
      refine ⟨_, exec_rekey_eq_ok_iff.2 (Or.inr ⟨hnot, ?_, rekey, hby, rfl, rfl⟩), rfl,
        repeatsRekey_rekeyedNode input request rekey _ _⟩
      exact nofun

/-- The orders under their number, with the number as text over the row key: the second rekey
is skipped. -/
theorem rekey_again_byOrder :
    ∃ node after,
      (standard.rekey (ordersKeyedAs .utf8) byOrder true).exec .empty = (.ok node, after) ∧
      (standard.rekey node byOrder true).exec after = (.ok node, after) := by
  obtain ⟨node, after, hreturned⟩ : ∃ node after,
      (standard.rekey (ordersKeyedAs .utf8) byOrder true).exec .empty = (.ok node, after) :=
    ⟨_, _, rfl⟩
  exact ⟨node, after, hreturned, ((rekey_again hreturned).1 after).2 (by decide)⟩

/-- The number of the order under an alias that its column does not carry is resolved both
times, and the second rekey makes another node with calls of its own. -/
theorem exists_rekeyed_twice :
    ∃ start node after again last,
      (standard.sourceStream "orders" orders.schema orders.keyField .plain).exec .empty =
        (.ok orders, start) ∧
      (standard.rekey orders ⟨"O.ORDERID", some 1, .int32⟩ false).exec start =
        (.ok node, after) ∧
      (standard.rekey node ⟨"O.ORDERID", some 1, .int32⟩ false).exec after =
        (.ok again, last) ∧
      node.id = ⟨1⟩ ∧ again.id = ⟨2⟩ ∧ again.keyField = node.keyField ∧
      last.calls = after.calls ++ [.filter, .selectKey] :=
  ⟨_, _, _, _, _, rfl, rfl, rfl, rfl, rfl, rfl, rfl⟩

end Planner

end StreamPlan
