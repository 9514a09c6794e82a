import StreamPlan.Proofs.Expr.Parts
import StreamPlan.Proofs.RowFunction.SelectList
import StreamPlan.Proofs.Schema.Reference
import StreamPlan.RowFunction.Joiner
import StreamPlan.RowFunction.Predicate

/-!
# Expressions and the columns they name

Typing turns names into positions, and evaluation reads positions.  Still an expression depends
on nothing but the columns it names: against two schemas that give these columns the same types
it compiles alike, and on two rows that give them the same values it evaluates alike.

Main results:

- `ColumnRef.SameIn`, `ColumnRef.AlikeIn`: a reference that means the same in two schemas and
  rows, and one that both schemas may refuse as well.
- `TypedExpr.Same`: typed forms of one type and one value.
- `Expr.alike_typed`: typing an expression against two schemas side by side.
- `ColumnRef.sameIn_reorder`, `ColumnRef.sameIn_join_left`, `ColumnRef.sameIn_join_right`,
  `ColumnRef.sameIn_project`: the columns of reordered, of joined and of projected rows.
- `Predicate.compile_eq_ok_iff`: the predicate that an expression compiles to.
- `Expr.DependsOnNamed`, `Expr.alike_of_named`: what an expression and a filter depend on.
-/

namespace StreamPlan

/-- A reference means columns of one type in two schemas, and the two rows hold one value
there. -/
def ColumnRef.SameIn (schema₁ : Schema) (row₁ : Row) (schema₂ : Schema) (row₂ : Row)
    (c : ColumnRef) : Prop :=
  ∃ i j, schema₁.resolve c = .ok i ∧ schema₂.resolve c = .ok j ∧
    schema₁.typeAt i = schema₂.typeAt j ∧ row₁.get i = row₂.get j

/-- In two schemas a reference means columns of one type, of which the two rows hold one value, or
it is refused with one error. -/
def ColumnRef.AlikeIn (schema₁ : Schema) (row₁ : Row) (schema₂ : Schema) (row₂ : Row)
    (c : ColumnRef) : Prop :=
  Alike (fun i j => schema₁.typeAt i = schema₂.typeAt j ∧ row₁.get i = row₂.get j)
    (schema₁.resolve c) (schema₂.resolve c)

/-- A reference that means the same is alike. -/
theorem ColumnRef.SameIn.alikeIn {schema₁ schema₂ : Schema} {row₁ row₂ : Row} {c : ColumnRef}
    (h : c.SameIn schema₁ row₁ schema₂ row₂) : c.AlikeIn schema₁ row₁ schema₂ row₂ := by
  obtain ⟨i, j, hi, hj, htype, hget⟩ := h
  rw [AlikeIn, hi, hj]
  exact .ok ⟨htype, hget⟩

/-- Related lists have one image under functions that agree on related members. -/
theorem map_eq_map_of_forall₂ {α β γ : Type} {R : α → β → Prop} {f : α → γ} {g : β → γ}
    {xs : List α} {ys : List β} (h : List.Forall₂ R xs ys) (hR : ∀ x y, R x y → f x = g y) :
    xs.map f = ys.map g := by
  induction h with
  | nil => rfl
  | cons hxy _ ih => rw [List.map_cons, List.map_cons, hR _ _ hxy, ih]

/-! ## Typed forms side by side -/

/-- Two typed forms have one type, and one value or error on two rows. -/
structure TypedExpr.Same (row₁ row₂ : Row) (a b : TypedExpr) : Prop where
  dataType : a.dataType = b.dataType
  evaluate : a.evaluate row₁ = b.evaluate row₂

namespace TypedExpr

variable {row₁ row₂ : Row}

/-- Both parts of two branches are the same. -/
def SameBranch (row₁ row₂ : Row) (a b : TypedExpr × TypedExpr) : Prop :=
  Same row₁ row₂ a.1 b.1 ∧ Same row₁ row₂ a.2 b.2

/-- The same expressions stay the same under a cast. -/
theorem Same.castTo {a b : TypedExpr} (h : Same row₁ row₂ a b) (target : DataType) :
    Same row₁ row₂ (a.castTo target) (b.castTo target) := by
  unfold TypedExpr.castTo
  rw [h.dataType]
  split
  · exact h
  · refine ⟨rfl, ?_⟩
    rw [evaluate_cast, evaluate_cast, h.evaluate]

/-- The same expressions stand for booleans alike. -/
theorem Same.requireBoolean {a b : TypedExpr} (h : Same row₁ row₂ a b) (place : BooleanPlace)
    (source : Expr) :
    Alike (Same row₁ row₂) (a.requireBoolean place source) (b.requireBoolean place source) := by
  unfold TypedExpr.requireBoolean
  rw [h.dataType]
  split
  · exact .ok h
  · split
    · exact .ok (h.castTo .boolean)
    · exact .error _

/-- The same expressions are cast alike. -/
theorem Same.ofCast {a b : TypedExpr} (h : Same row₁ row₂ a b) (target : DataType) :
    Alike (Same row₁ row₂) (a.ofCast target) (b.ofCast target) := by
  unfold TypedExpr.ofCast
  rw [h.dataType]
  split
  · exact .ok (h.castTo target)
  · exact .error _

/-- The same sides are compared alike. -/
theorem Same.ofCompare {a b a' b' : TypedExpr} (hl : Same row₁ row₂ a b)
    (hr : Same row₁ row₂ a' b') (op : CompareOp) :
    Alike (Same row₁ row₂) (ofCompare op a a') (ofCompare op b b') := by
  unfold TypedExpr.ofCompare
  rw [hl.dataType, hr.dataType]
  refine (Alike.refl _).bind ?_
  rintro type _ rfl
  refine .ok ⟨rfl, ?_⟩
  rw [evaluate_compare, evaluate_compare, (hl.castTo type).evaluate, (hr.castTo type).evaluate]

/-- Arithmetic on the same sides is alike. -/
theorem Same.ofArith {a b a' b' : TypedExpr} (hl : Same row₁ row₂ a b)
    (hr : Same row₁ row₂ a' b') (op : ArithOp) :
    Alike (Same row₁ row₂) (ofArith op a a') (ofArith op b b') := by
  unfold TypedExpr.ofArith
  rw [hl.dataType, hr.dataType]
  refine (Alike.refl _).bind ?_
  rintro type _ rfl
  refine .ok ⟨rfl, ?_⟩
  rw [evaluate_arith, evaluate_arith, (hl.castTo type).evaluate, (hr.castTo type).evaluate]

/-- Connectives of the same sides are the same. -/
theorem Same.connect {a b a' b' : TypedExpr} (hl : Same row₁ row₂ a b)
    (hr : Same row₁ row₂ a' b') (op : Connective) :
    Same row₁ row₂ (.connect op a a') (.connect op b b') := by
  refine ⟨rfl, ?_⟩
  rw [evaluate_connect, evaluate_connect, hl.evaluate, hr.evaluate]

/-- Negations of the same operand are the same. -/
theorem Same.not {a b : TypedExpr} (h : Same row₁ row₂ a b) :
    Same row₁ row₂ (.not a) (.not b) := by
  refine ⟨rfl, ?_⟩
  rw [evaluate_not, evaluate_not, h.evaluate]

/-- Tests of the same operand are the same. -/
theorem Same.isNull {a b : TypedExpr} (h : Same row₁ row₂ a b) (negated : Bool) :
    Same row₁ row₂ (.isNull a negated) (.isNull b negated) := by
  refine ⟨rfl, ?_⟩
  rw [evaluate_isNull, evaluate_isNull, h.evaluate]

/-- The same expressions have one list of values. -/
theorem evaluateAll_eq {as bs : List TypedExpr} (h : List.Forall₂ (Same row₁ row₂) as bs) :
    evaluateAll row₁ as = evaluateAll row₂ bs := by
  induction h with
  | nil => rfl
  | cons hab _ ih => rw [evaluateAll_cons, evaluateAll_cons, hab.evaluate, ih]

/-- Of the same branches the same one is taken. -/
theorem firstBranch_eq {as bs : List (TypedExpr × TypedExpr)}
    (h : List.Forall₂ (SameBranch row₁ row₂) as bs) :
    firstBranch row₁ as = firstBranch row₂ bs := by
  induction h with
  | nil => rfl
  | @cons a b _ _ hab _ ih =>
    obtain ⟨cond, result⟩ := a
    obtain ⟨cond', result'⟩ := b
    rw [firstBranch_cons, firstBranch_cons, hab.1.evaluate, hab.2.evaluate, ih]

/-- The same alternatives have one value. -/
theorem evaluateOtherwise_eq {a b : Option TypedExpr} (h : Option.Rel (Same row₁ row₂) a b) :
    evaluateOtherwise row₁ a = evaluateOtherwise row₂ b := by
  cases h with
  | none => rfl
  | some hab => exact hab.evaluate

/-- Case expressions of the same parts are alike. -/
theorem alike_ofBranches {as bs : List (TypedExpr × TypedExpr)} {a b : Option TypedExpr}
    (hbranches : List.Forall₂ (SameBranch row₁ row₂) as bs)
    (hotherwise : Option.Rel (Same row₁ row₂) a b) :
    Alike (Same row₁ row₂) (ofBranches as a) (ofBranches bs b) := by
  have htypes : as.map (·.2.dataType) ++ a.toList.map TypedExpr.dataType =
      bs.map (·.2.dataType) ++ b.toList.map TypedExpr.dataType := by
    congr 1
    · exact map_eq_map_of_forall₂ hbranches fun _ _ hab => hab.2.dataType
    · cases hotherwise with
      | none => rfl
      | some hab => exact congrArg (fun type => [type]) hab.dataType
  unfold ofBranches
  rw [htypes]
  refine (Alike.refl _).bind ?_
  rintro type _ rfl
  refine .ok ⟨rfl, ?_⟩
  have hcasts : List.Forall₂ (SameBranch row₁ row₂)
      (as.map fun branch => (branch.1, branch.2.castTo type))
      (bs.map fun branch => (branch.1, branch.2.castTo type)) := by
    rw [List.forall₂_map_left_iff, List.forall₂_map_right_iff]
    exact hbranches.imp fun _ _ hab => ⟨hab.1, hab.2.castTo type⟩
  have halternatives : Option.Rel (Same row₁ row₂) (a.map fun e => e.castTo type)
      (b.map fun e => e.castTo type) := by
    cases hotherwise with
    | none => exact .none
    | some hab => exact .some (hab.castTo type)
  rw [evaluate_case, evaluate_case, firstBranch_eq hcasts, evaluateOtherwise_eq halternatives]

/-- Calls on the same arguments are alike. -/
theorem alike_ofCall {as bs : List TypedExpr} (h : List.Forall₂ (Same row₁ row₂) as bs)
    (functions : Registry) (name : String) :
    Alike (Same row₁ row₂) (ofCall functions name as) (ofCall functions name bs) := by
  unfold ofCall
  rw [map_eq_map_of_forall₂ h fun _ _ hab => hab.dataType]
  refine (Alike.refl _).bind ?_
  rintro ⟨function, type⟩ _ rfl
  refine .ok ⟨rfl, ?_⟩
  rw [evaluate_apply, evaluate_apply, evaluateAll_eq h]

end TypedExpr

/-! ## Typing side by side -/

namespace Expr

variable {functions : Registry} {schema₁ schema₂ : Schema} {row₁ row₂ : Row}

/-- Lists are typed alike when their members are. -/
theorem alike_typedAll {es : List Expr}
    (h : ∀ e ∈ es, Alike (TypedExpr.Same row₁ row₂) (e.typed schema₁ functions)
      (e.typed schema₂ functions)) :
    Alike (List.Forall₂ (TypedExpr.Same row₁ row₂)) (typedAll schema₁ functions es)
      (typedAll schema₂ functions es) := by
  induction es with
  | nil => exact .ok .nil
  | cons e rest ih =>
    rw [typedAll_cons, typedAll_cons]
    refine (h e List.mem_cons_self).bind fun a b hab => ?_
    refine (ih fun e he => h e (List.mem_cons_of_mem _ he)).bind fun as bs hrest => ?_
    exact .ok (.cons hab hrest)

/-- Branches are typed alike when their parts are. -/
theorem alike_typedBranches {branches : List (Expr × Expr)}
    (h : ∀ branch ∈ branches,
      Alike (TypedExpr.Same row₁ row₂) (branch.1.typed schema₁ functions)
          (branch.1.typed schema₂ functions) ∧
        Alike (TypedExpr.Same row₁ row₂) (branch.2.typed schema₁ functions)
          (branch.2.typed schema₂ functions)) :
    Alike (List.Forall₂ (TypedExpr.SameBranch row₁ row₂))
      (typedBranches schema₁ functions branches) (typedBranches schema₂ functions branches) := by
  induction branches with
  | nil => exact .ok .nil
  | cons branch rest ih =>
    obtain ⟨cond, result⟩ := branch
    obtain ⟨hcond, hresult⟩ := h (cond, result) List.mem_cons_self
    rw [typedBranches_cons, typedBranches_cons]
    refine hcond.bind fun _ _ hab => (hab.requireBoolean _ _).bind fun a b hab => ?_
    refine hresult.bind fun a' b' hab' => ?_
    refine (ih fun branch hmem => h branch (List.mem_cons_of_mem _ hmem)).bind fun as bs hrest => ?_
    exact .ok (.cons ⟨hab, hab'⟩ hrest)

/-- Alternatives are typed alike when their expressions are. -/
theorem alike_typedOtherwise {otherwise : Option Expr}
    (h : ∀ e, otherwise = some e → Alike (TypedExpr.Same row₁ row₂) (e.typed schema₁ functions)
      (e.typed schema₂ functions)) :
    Alike (Option.Rel (TypedExpr.Same row₁ row₂)) (typedOtherwise schema₁ functions otherwise)
      (typedOtherwise schema₂ functions otherwise) := by
  cases otherwise with
  | none => exact .ok .none
  | some e =>
    rw [typedOtherwise_some, typedOtherwise_some]
    exact (h e rfl).bind fun a b hab => .ok (.some hab)

/-- An expression names a column. -/
def Names (e : Expr) (c : ColumnRef) : Prop := (column c).Part e

/-- A child names only what the expression names. -/
theorem Names.of_child {e child : Expr} {c : ColumnRef} (h : child.Names c)
    (hchild : child ∈ e.children) : e.Names c := .child hchild h

/-- Against two schemas in which its references are alike, an expression is typed alike, and the
typed forms have one value on the two rows. -/
theorem alike_typed (e : Expr)
    (h : ∀ c, e.Names c → c.AlikeIn schema₁ row₁ schema₂ row₂) :
    Alike (TypedExpr.Same row₁ row₂) (e.typed schema₁ functions) (e.typed schema₂ functions) := by
  induction e using Expr.induct with
  | column c =>
    rw [typed_column, typed_column]
    refine (h c .self).bind ?_
    rintro i j ⟨htype, hget⟩
    refine .ok ⟨htype, ?_⟩
    rw [TypedExpr.evaluate_column, TypedExpr.evaluate_column, hget]
  | literal v =>
    rw [typed_literal, typed_literal]
    refine (Alike.refl _).bind ?_
    rintro value _ rfl
    exact .ok ⟨rfl, rfl⟩
  | compare op l r ihl ihr =>
    rw [typed_compare, typed_compare]
    refine (ihl fun c hc => h c (hc.of_child List.mem_cons_self)).bind fun a b hab => ?_
    refine (ihr fun c hc => h c (hc.of_child ?_)).bind fun a' b' hab' => hab.ofCompare hab' op
    exact List.mem_cons_of_mem _ List.mem_cons_self
  | arith op l r ihl ihr =>
    rw [typed_arith, typed_arith]
    refine (ihl fun c hc => h c (hc.of_child List.mem_cons_self)).bind fun a b hab => ?_
    refine (ihr fun c hc => h c (hc.of_child ?_)).bind fun a' b' hab' => hab.ofArith hab' op
    exact List.mem_cons_of_mem _ List.mem_cons_self
  | cast e target ih =>
    rw [typed_cast, typed_cast]
    refine (ih fun c hc => h c (hc.of_child List.mem_cons_self)).bind fun a b hab => ?_
    exact hab.ofCast target
  | connect op l r ihl ihr =>
    rw [typed_connect, typed_connect]
    refine (ihl fun c hc => h c (hc.of_child List.mem_cons_self)).bind fun _ _ hab => ?_
    refine (hab.requireBoolean _ _).bind fun a b hab => ?_
    refine (ihr fun c hc => h c (hc.of_child ?_)).bind fun _ _ hab' => ?_
    · exact List.mem_cons_of_mem _ List.mem_cons_self
    · exact (hab'.requireBoolean _ _).bind fun a' b' hab' => .ok (hab.connect hab' op)
  | not e ih =>
    rw [typed_not, typed_not]
    refine (ih fun c hc => h c (hc.of_child List.mem_cons_self)).bind fun _ _ hab => ?_
    exact (hab.requireBoolean _ _).bind fun a b hab => .ok hab.not
  | isNull e ih =>
    rw [typed_isNull, typed_isNull]
    refine (ih fun c hc => h c (hc.of_child List.mem_cons_self)).bind fun a b hab => ?_
    exact .ok (hab.isNull false)
  | isNotNull e ih =>
    rw [typed_isNotNull, typed_isNotNull]
    refine (ih fun c hc => h c (hc.of_child List.mem_cons_self)).bind fun a b hab => ?_
    exact .ok (hab.isNull true)
  | case branches otherwise ihbranches ihotherwise =>
    rw [typed_case, typed_case]
    split
    · exact .error _
    · have hbranches : Alike (List.Forall₂ (TypedExpr.SameBranch row₁ row₂))
          (typedBranches schema₁ functions branches)
          (typedBranches schema₂ functions branches) := by
        refine alike_typedBranches fun branch hmem => ?_
        obtain ⟨hcond, hresult⟩ := @mem_children_of_branch branches otherwise branch hmem
        obtain ⟨ihcond, ihresult⟩ := ihbranches branch hmem
        exact ⟨ihcond fun c hc => h c (hc.of_child hcond),
          ihresult fun c hc => h c (hc.of_child hresult)⟩
      have hotherwise : Alike (Option.Rel (TypedExpr.Same row₁ row₂))
          (typedOtherwise schema₁ functions otherwise)
          (typedOtherwise schema₂ functions otherwise) := by
        refine alike_typedOtherwise ?_
        rintro e rfl
        exact ihotherwise e rfl fun c hc => h c (hc.of_child mem_children_of_otherwise)
      exact hbranches.bind fun _ _ has => hotherwise.bind fun _ _ ha =>
        TypedExpr.alike_ofBranches has ha
  | call name arguments ih =>
    rw [typed_call, typed_call]
    refine (alike_typedAll fun e he => ih e he fun c hc => h c (hc.of_child he)).bind
      fun as bs hab => ?_
    exact TypedExpr.alike_ofCall hab functions name

/-- Against two schemas an expression compiles to the same error or to one type, and on two rows
it then evaluates to the same value or error. -/
def AlikeOn (functions : Registry) (schema₁ : Schema) (row₁ : Row) (schema₂ : Schema) (row₂ : Row)
    (e : Expr) : Prop :=
  Alike (fun a b => a.dataType = b.dataType ∧ a.evaluate row₁ = b.evaluate row₂)
    (e.compile schema₁ functions) (e.compile schema₂ functions)

/-- Against two schemas and on two rows in which its references are alike, an expression is
compiled and evaluated alike. -/
theorem alikeOn_of_alikeIn {e : Expr}
    (h : ∀ c, e.Names c → c.AlikeIn schema₁ row₁ schema₂ row₂) :
    e.AlikeOn functions schema₁ row₁ schema₂ row₂ :=
  (alike_typed e h).bind fun _ _ hab => .ok ⟨hab.dataType, hab.evaluate⟩

/-- So it is where its references mean the same. -/
theorem alikeOn_of_sameIn {e : Expr} (h : ∀ c, e.Names c → c.SameIn schema₁ row₁ schema₂ row₂) :
    e.AlikeOn functions schema₁ row₁ schema₂ row₂ :=
  alikeOn_of_alikeIn fun c hc => (h c hc).alikeIn

end Expr

/-! ## Predicates side by side -/

namespace Predicate

variable {config : Config} {functions : Registry} {windowed : Bool} {schema : Schema}

/-- An expression compiles to a predicate when it is typed as a boolean against the columns of
the input and the bounds of the window. -/
theorem compile_eq_ok_iff {e : Expr} {predicate : Predicate} :
    compile config functions windowed schema e = .ok predicate ↔
      ∃ t, e.typed (schemaFor config windowed schema) functions = .ok t ∧
        t.dataType = .boolean ∧
        predicate = ⟨⟨e, schemaFor config windowed schema, t⟩,
          boundsFor config windowed schema⟩ := by
  unfold compile
  rw [bind_eq_ok_iff]
  constructor
  · rintro ⟨compiled, hcompiled, h⟩
    rw [mapError_eq_ok_iff] at hcompiled
    obtain ⟨t, ht, rfl⟩ := Expr.compile_eq_ok_iff.1 hcompiled
    split at h
    · rename_i hboolean
      exact ⟨t, ht, hboolean, (Except.ok.inj h).symm⟩
    · cases h
  · rintro ⟨t, ht, hboolean, rfl⟩
    refine ⟨⟨e, schemaFor config windowed schema, t⟩, ?_, if_pos hboolean⟩
    rw [mapError_eq_ok_iff]
    exact Expr.compile_eq_ok_iff.2 ⟨t, ht, rfl⟩

/-- The row that a filter reads: the columns of the input and the bounds it sees. -/
def rowFor (config : Config) (windowed : Bool) (schema : Schema) (key : RecordKey) (row : Row) :
    Row :=
  ⟨row.columns ++ (boundsFor config windowed schema).map fun bound => bound.value key⟩

/-- Two filters whose expressions have one value decide alike. -/
theorem test_eq_of_evaluate_eq {p q : Predicate} {key₁ key₂ : RecordKey} {row₁ row₂ : Row}
    (h : p.expr.evaluate (p.extend key₁ row₁) = q.expr.evaluate (q.extend key₂ row₂)) :
    p.test key₁ (some row₁) = q.test key₂ (some row₂) := by
  unfold test
  dsimp only
  rw [testRow, testRow, h]

variable {windowed₁ windowed₂ : Bool} {schema₁ schema₂ : Schema} {key₁ key₂ : RecordKey}
  {row₁ row₂ : Row}

/-- Over two schemas in which its references are alike, a filter is compiled alike, and decides
alike on the two rows. -/
theorem alike_compile_of_alikeIn (e : Expr)
    (h : ∀ c, e.Names c →
      c.AlikeIn (schemaFor config windowed₁ schema₁) (rowFor config windowed₁ schema₁ key₁ row₁)
        (schemaFor config windowed₂ schema₂) (rowFor config windowed₂ schema₂ key₂ row₂)) :
    Alike (fun p q => p.test key₁ (some row₁) = q.test key₂ (some row₂))
      (compile config functions windowed₁ schema₁ e)
      (compile config functions windowed₂ schema₂ e) := by
  refine (Alike.mapError (Expr.alikeOn_of_alikeIn h) _).bind ?_
  rintro a b ⟨htype, hvalue⟩
  rw [htype]
  split
  · exact .ok (test_eq_of_evaluate_eq hvalue)
  · exact .error _

/-- So it is over two schemas in which its references mean the same. -/
theorem alike_compile (e : Expr)
    (h : ∀ c, e.Names c →
      c.SameIn (schemaFor config windowed₁ schema₁) (rowFor config windowed₁ schema₁ key₁ row₁)
        (schemaFor config windowed₂ schema₂) (rowFor config windowed₂ schema₂ key₂ row₂)) :
    Alike (fun p q => p.test key₁ (some row₁) = q.test key₂ (some row₂))
      (compile config functions windowed₁ schema₁ e)
      (compile config functions windowed₂ schema₂ e) :=
  alike_compile_of_alikeIn e fun c hc => (h c hc).alikeIn

end Predicate

/-! ## Reordered, joined and projected rows -/

/-- The columns of a schema at the given places, in their order. -/
def Schema.reorder (schema : Schema) (order : List Nat) : Schema := ⟨order.map schema.fieldAt⟩

/-- The values of a row at the given places, in their order. -/
def Row.reorder (row : Row) (order : List Nat) : Row := ⟨order.map row.get⟩

namespace ColumnRef

variable {c : ColumnRef}

/-- A reference that still means a column after it has changed its place means the same. -/
theorem sameIn_reorder {schema : Schema} {order : List Nat} {i j : Nat}
    (hbefore : schema.resolve c = .ok j) (horder : order[i]? = some j)
    (hafter : (schema.reorder order).resolve c = .ok i) (row : Row) :
    c.SameIn schema row (schema.reorder order) (row.reorder order) := by
  refine ⟨j, i, hbefore, hafter, ?_, ?_⟩
  · have hfield : (schema.reorder order).fieldAt i = schema.fieldAt j := by
      simp [Schema.reorder, Schema.fieldAt, horder]
    rw [Schema.typeAt, Schema.typeAt, hfield]
  · simp [Row.reorder, Row.get, horder]

/-- A reference that still means the column of the left side means the same in a joined row. -/
theorem sameIn_join_left {left right : Schema} {l : Row} {r : Option Row} {i : Nat}
    (hleft : left.resolve c = .ok i) (hjoined : (left.append right).resolve c = .ok i)
    (hwidth : l.width = left.width) :
    c.SameIn left l (left.append right) ((Joiner.ofSchemas left right).join (some l) r) := by
  have hi := Schema.resolve_lt_width hleft
  refine ⟨i, i, hleft, hjoined, ?_, ?_⟩
  · rw [Schema.typeAt_append_left hi]
  · have hcolumn : i < l.columns.length := Nat.lt_of_lt_of_eq hi hwidth.symm
    rw [Row.get, Row.get, Joiner.join, Joiner.side, List.getElem?_append_left hcolumn]

/-- A reference that still means the column of the right side means the same in a joined row. -/
theorem sameIn_join_right {left right : Schema} {l : Option Row} {r : Row} {j : Nat}
    (hright : right.resolve c = .ok j)
    (hjoined : (left.append right).resolve c = .ok (left.width + j))
    (hwidth : ∀ row, l = some row → row.width = left.width) :
    c.SameIn right r (left.append right) ((Joiner.ofSchemas left right).join l (some r)) := by
  refine ⟨j, left.width + j, hright, hjoined, ?_, ?_⟩
  · rw [Schema.typeAt_append_right]
  · have hside : (Joiner.side left.width l).length = left.width := Joiner.length_side hwidth
    rw [Row.get, Row.get, Joiner.join, Joiner.ofSchemas,
      List.getElem?_append_right (hside.symm ▸ Nat.le_add_right _ _), hside,
      Nat.add_sub_cancel_left]
    rfl

/-- A reference that means a column which a projection hands on, and after it the place to which
it is handed on, means the same in a projected row. -/
theorem sameIn_project {schema : Schema} {functions : Registry} {context : String}
    {items : List SelectItem} {compiled : List CompiledExpr} {source : ColumnRef} {i j : Nat}
    (hcompiled :
      Expr.compileAll context schema functions (items.map (·.expr)) = .ok compiled)
    (hitem : referenceAt? items i = some source) (hsource : schema.resolve source = .ok j)
    (hbefore : schema.resolve c = .ok j)
    (hafter : (Schema.mk (Projection.ofItems items compiled).fields).resolve c = .ok i)
    (row : Row) :
    c.SameIn schema row ⟨(Projection.ofItems items compiled).fields⟩
      ((Projection.ofItems items compiled).applyRow row) := by
  obtain ⟨k, hk, hcopies, htype⟩ := copies_of_reference hcompiled hitem
  obtain rfl := Except.ok.inj (hsource.symm.trans hk)
  exact ⟨j, i, hbefore, hafter, htype.symm, (hcopies.get_applyRow row).symm⟩

end ColumnRef

/-! ## What an expression depends on -/

/-- An expression depends only on the columns it names. -/
structure Expr.DependsOnNamed (functions : Registry) (e : Expr) : Prop where
  /-- Against two schemas and on two rows in which its references mean the same, it compiles to
  the same error or to one type, and evaluates to the same value or error. -/
  alike : ∀ {schema₁ schema₂ : Schema} {row₁ row₂ : Row},
    (∀ c, e.Names c → c.SameIn schema₁ row₁ schema₂ row₂) →
    e.AlikeOn functions schema₁ row₁ schema₂ row₂
  /-- So does a filter, over schemas and rows that also hold the bounds of a window. -/
  filtered : ∀ {config : Config} {windowed₁ windowed₂ : Bool} {schema₁ schema₂ : Schema}
    {key₁ key₂ : RecordKey} {row₁ row₂ : Row},
    (∀ c, e.Names c →
      c.SameIn (Predicate.schemaFor config windowed₁ schema₁)
        (Predicate.rowFor config windowed₁ schema₁ key₁ row₁)
        (Predicate.schemaFor config windowed₂ schema₂)
        (Predicate.rowFor config windowed₂ schema₂ key₂ row₂)) →
    Alike (fun p q => p.test key₁ (some row₁) = q.test key₂ (some row₂))
      (Predicate.compile config functions windowed₁ schema₁ e)
      (Predicate.compile config functions windowed₂ schema₂ e)
  /-- Columns may be put in another order, if the references still resolve to them. -/
  reordered : ∀ {schema : Schema} {order : List Nat} (row : Row),
    (∀ c, e.Names c → ∃ i j, schema.resolve c = .ok j ∧ order[i]? = some j ∧
      (schema.reorder order).resolve c = .ok i) →
    e.AlikeOn functions schema row (schema.reorder order) (row.reorder order)
  /-- Columns may be joined behind those of the row. -/
  joinedLeft : ∀ {left right : Schema} {l : Row} (r : Option Row), l.width = left.width →
    (∀ c, e.Names c → ∃ i, left.resolve c = .ok i ∧ (left.append right).resolve c = .ok i) →
    e.AlikeOn functions left l (left.append right) ((Joiner.ofSchemas left right).join (some l) r)
  /-- Columns may be joined before those of the row. -/
  joinedRight : ∀ {left right : Schema} {l : Option Row} (r : Row),
    (∀ row, l = some row → row.width = left.width) →
    (∀ c, e.Names c → ∃ j, right.resolve c = .ok j ∧
      (left.append right).resolve c = .ok (left.width + j)) →
    e.AlikeOn functions right r (left.append right) ((Joiner.ofSchemas left right).join l (some r))
  /-- Rows may be projected, if the columns are handed on. -/
  projected : ∀ {schema : Schema} {context : String} {items : List SelectItem}
    {compiled : List CompiledExpr} (row : Row),
    Expr.compileAll context schema functions (items.map (·.expr)) = .ok compiled →
    (∀ c, e.Names c → ∃ i j source, referenceAt? items i = some source ∧
      schema.resolve source = .ok j ∧ schema.resolve c = .ok j ∧
      (Schema.mk (Projection.ofItems items compiled).fields).resolve c = .ok i) →
    e.AlikeOn functions schema row ⟨(Projection.ofItems items compiled).fields⟩
      ((Projection.ofItems items compiled).applyRow row)

/-- Every expression depends only on the columns it names. -/
theorem Expr.alike_of_named (functions : Registry) (e : Expr) : e.DependsOnNamed functions where
  alike := alikeOn_of_sameIn
  filtered := Predicate.alike_compile e
  reordered row h := alikeOn_of_sameIn fun c hc => by
    obtain ⟨i, j, hbefore, horder, hafter⟩ := h c hc
    exact ColumnRef.sameIn_reorder hbefore horder hafter row
  joinedLeft r hwidth h := alikeOn_of_sameIn fun c hc => by
    obtain ⟨i, hleft, hjoined⟩ := h c hc
    exact ColumnRef.sameIn_join_left hleft hjoined hwidth
  joinedRight r hwidth h := alikeOn_of_sameIn fun c hc => by
    obtain ⟨j, hright, hjoined⟩ := h c hc
    exact ColumnRef.sameIn_join_right hright hjoined hwidth
  projected row hcompiled h := alikeOn_of_sameIn fun c hc => by
    obtain ⟨i, j, source, hitem, hsource, hbefore, hafter⟩ := h c hc
    exact ColumnRef.sameIn_project hcompiled hitem hsource hbefore hafter row

/-! ## A filter before and after a join -/

/-- Whether the column `A` is above one. -/
def aboveOne : Expr := .compare .gt (.column ⟨none, "A"⟩) (.literal (.int64 1))

/-- The filter names the column `A` only. -/
theorem eq_of_names_aboveOne {c : ColumnRef} (h : aboveOne.Names c) : c = ⟨none, "A"⟩ := by
  cases h with
  | child hchild inner =>
    rcases List.mem_cons.1 hchild with rfl | hliteral
    · cases inner with
      | self => rfl
      | child hnone _ => cases hnone
    · obtain rfl := List.mem_singleton.1 hliteral
      cases inner with
      | child hnone _ => cases hnone

/-- A row that the filter keeps is kept behind a join with a column `B` as well. -/
theorem alike_of_named_joined :
    ∃ before after,
      Predicate.compile .default .empty false ⟨[⟨"A", .int32⟩, ⟨"S", .utf8⟩]⟩ aboveOne =
          .ok before ∧
        Predicate.compile .default .empty false
            ⟨[⟨"A", .int32⟩, ⟨"S", .utf8⟩, ⟨"B", .int32⟩]⟩ aboveOne = .ok after ∧
        before.test (.plain .null) (some ⟨[.int32 5, .utf8 "x"]⟩) = true ∧
        after.test (.plain .null) (some ⟨[.int32 5, .utf8 "x", .int32 7]⟩) = true := by
  obtain ⟨before, after, hbefore, hafter, hkept⟩ :
      ∃ before after,
        Predicate.compile .default .empty false ⟨[⟨"A", .int32⟩, ⟨"S", .utf8⟩]⟩ aboveOne =
            .ok before ∧
          Predicate.compile .default .empty false
              ⟨[⟨"A", .int32⟩, ⟨"S", .utf8⟩, ⟨"B", .int32⟩]⟩ aboveOne = .ok after ∧
          before.test (.plain .null) (some ⟨[.int32 5, .utf8 "x"]⟩) = true :=
    ⟨_, _, rfl, rfl, rfl⟩
  have halike := @(Expr.alike_of_named .empty aboveOne).filtered .default false false
    ⟨[⟨"A", .int32⟩, ⟨"S", .utf8⟩]⟩ ⟨[⟨"A", .int32⟩, ⟨"S", .utf8⟩, ⟨"B", .int32⟩]⟩
    (.plain .null) (.plain .null) ⟨[.int32 5, .utf8 "x"]⟩ ⟨[.int32 5, .utf8 "x", .int32 7]⟩ (by
      intro c hc
      obtain rfl := eq_of_names_aboveOne hc
      exact @ColumnRef.sameIn_join_left _ ⟨[⟨"A", .int32⟩, ⟨"S", .utf8⟩]⟩ ⟨[⟨"B", .int32⟩]⟩
        ⟨[.int32 5, .utf8 "x"]⟩ (some ⟨[.int32 7]⟩) 0 rfl rfl rfl)
  rw [hbefore, hafter] at halike
  cases halike with
  | ok related => exact ⟨before, after, hbefore, hafter, hkept, related.symm.trans hkept⟩

end StreamPlan
