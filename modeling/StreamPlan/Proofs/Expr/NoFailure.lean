import StreamPlan.Proofs.Expr.CommonType
import StreamPlan.Proofs.Expr.ErrorKinds
import StreamPlan.Proofs.Expr.Parts
import StreamPlan.Proofs.Expr.TypeSoundness

/-!
# Expressions that do not fail

Where the types of operands meet, the operands are cast from an untyped null or to a wider
numeric type, and such casts never fail.  So on rows that fit the schema, only a cast or a call
that was asked for, or integer arithmetic, can make an expression fail.

Main results:

- `TypedExpr.total_castTo`: the casts that are inserted do not fail.
- `Expr.Elementary`, `Expr.total_typed`: expressions that do not fail.
- `Expr.errors_by_phase`: the errors of the two phases.
-/

namespace StreamPlan

/-! ## Expressions that evaluate on every row -/

namespace TypedExpr

variable {schema : Schema}

/-- On rows that fit the schema, the expression evaluates to a value that fits its type. -/
structure Total (schema : Schema) (e : TypedExpr) : Prop where
  succeeds : ∀ row : Row, row.Fits schema → ∃ v, e.evaluate row = .ok v
  sound : e.Sound schema

/-- A cast to a type that the static type widens to does not fail. -/
theorem total_castTo {e : TypedExpr} (he : e.Total schema) {target : DataType}
    (h : e.dataType.WidensTo target) : (e.castTo target).Total schema := by
  have hnull : target = .null → e.dataType = .null := fun htarget => (htarget ▸ h).eq_null
  refine ⟨fun row hrow => ?_, sound_castTo he.sound hnull⟩
  obtain ⟨v, hv⟩ := he.succeeds row hrow
  unfold castTo
  split
  · exact ⟨v, hv⟩
  · obtain ⟨w, hw⟩ := Value.exists_cast_of_widensTo (he.sound row hrow v hv) h
    exact ⟨w, bind_eq_ok_iff.2 ⟨v, hv, hw⟩⟩

/-- An operand that stands for a boolean does not fail more than the expression. -/
theorem total_requireBoolean {e t : TypedExpr} {place : BooleanPlace} {source : Expr}
    (he : e.Total schema) (h : e.requireBoolean place source = .ok t) : t.Total schema := by
  unfold requireBoolean at h
  split at h
  · exact Except.ok.inj h ▸ he
  · split at h
    · rename_i hnull
      exact Except.ok.inj h ▸ total_castTo he (Or.inl hnull)
    · cases h

/-- A column does not fail. -/
theorem total_column {i : Nat} (hi : i < schema.width) :
    (column i (schema.typeAt i)).Total schema :=
  ⟨fun row _ => ⟨_, evaluate_column row _ _⟩, sound_column hi⟩

/-- A literal does not fail. -/
theorem total_literal (v : Value) : (literal v).Total schema :=
  ⟨fun row _ => ⟨_, evaluate_literal row v⟩, sound_literal v⟩

/-- A negation does not fail if its operand does not. -/
theorem total_not {e : TypedExpr} (he : e.Total schema) : (TypedExpr.not e).Total schema := by
  refine ⟨fun row hrow => ?_, sound_not e⟩
  obtain ⟨v, hv⟩ := he.succeeds row hrow
  exact ⟨_, bind_eq_ok_iff.2 ⟨v, hv, rfl⟩⟩

/-- A connective does not fail if its sides do not. -/
theorem total_connect (op : Connective) {left right : TypedExpr} (hl : left.Total schema)
    (hr : right.Total schema) : (connect op left right).Total schema := by
  refine ⟨fun row hrow => ?_, sound_connect op left right⟩
  obtain ⟨a, ha⟩ := hl.succeeds row hrow
  obtain ⟨b, hb⟩ := hr.succeeds row hrow
  rw [evaluate_connect, ha]
  by_cases hdecided : a.toBool? = some op.decisive
  · exact ⟨_, if_pos hdecided⟩
  · exact ⟨_, (if_neg hdecided).trans (bind_eq_ok_iff.2 ⟨b, hb, rfl⟩)⟩

/-- A test for null does not fail if its operand does not. -/
theorem total_isNull {e : TypedExpr} (he : e.Total schema) (negated : Bool) :
    (isNull e negated).Total schema := by
  refine ⟨fun row hrow => ?_, sound_isNull e negated⟩
  obtain ⟨v, hv⟩ := he.succeeds row hrow
  exact ⟨_, bind_eq_ok_iff.2 ⟨v, hv, rfl⟩⟩

/-- A comparison does not fail if its sides do not. -/
theorem total_ofCompare {op : CompareOp} {left right t : TypedExpr} (hl : left.Total schema)
    (hr : right.Total schema) (h : ofCompare op left right = .ok t) : t.Total schema := by
  refine ⟨fun row hrow => ?_, sound_ofCompare h⟩
  obtain ⟨type, htype, heq⟩ := bind_eq_ok_iff.1 h
  obtain rfl := Except.ok.inj heq
  obtain ⟨hleft, hright⟩ := comparisonType_widens htype
  obtain ⟨a, ha⟩ := (total_castTo hl hleft).succeeds row hrow
  obtain ⟨b, hb⟩ := (total_castTo hr hright).succeeds row hrow
  exact ⟨_, bind_eq_ok_iff.2 ⟨a, ha, bind_eq_ok_iff.2 ⟨b, hb, rfl⟩⟩⟩

/-- Arithmetic on doubles does not fail. -/
theorem exists_onValues_of_float64 (op : ArithOp) {a : Value} (ha : a.Fits .float64) (b : Value) :
    ∃ v, op.onValues a b = .ok v := by
  unfold ArithOp.onValues
  split
  · cases ha.resolve_left nofun
  · cases ha.resolve_left nofun
  · exact ⟨_, rfl⟩
  · exact ⟨_, rfl⟩

/-- Arithmetic that is not on integers does not fail if its sides do not. -/
theorem total_ofArith {op : ArithOp} {left right t : TypedExpr} (hl : left.Total schema)
    (hr : right.Total schema) (h : ofArith op left right = .ok t)
    (hinteger : t.dataType ≠ .int32 ∧ t.dataType ≠ .int64) : t.Total schema := by
  refine ⟨fun row hrow => ?_, sound_ofArith hl.sound h⟩
  obtain ⟨type, htype, heq⟩ := bind_eq_ok_iff.1 h
  obtain rfl := Except.ok.inj heq
  obtain ⟨hleft, hright⟩ := arithmeticType_widens htype
  have hdouble : type = .float64 := by
    obtain ⟨r, hr⟩ := Option.isSome_iff_exists.1 (isNumeric_of_arithmeticType htype)
    rcases DataType.numericRank?_eq_some_iff.1 hr with ⟨rfl, -⟩ | ⟨rfl, -⟩ | ⟨rfl, -⟩
    · exact absurd rfl hinteger.1
    · exact absurd rfl hinteger.2
    · rfl
  obtain ⟨a, ha⟩ := (total_castTo hl hleft).succeeds row hrow
  obtain ⟨b, hb⟩ := (total_castTo hr hright).succeeds row hrow
  have hfits : a.Fits .float64 := by
    have hyields := yields_castTo hl.sound
      (fun hnull => absurd hnull (arithmeticType_ne_null htype)) row hrow a ha
    rwa [hdouble] at hyields
  obtain ⟨v, hv⟩ := exists_onValues_of_float64 op hfits b
  exact ⟨v, bind_eq_ok_iff.2 ⟨a, ha, bind_eq_ok_iff.2 ⟨b, hb, hv⟩⟩⟩

/-- The search for a branch does not fail if no condition and no result does. -/
theorem exists_firstBranch {branches : List (TypedExpr × TypedExpr)} {row : Row}
    (h : ∀ branch ∈ branches,
      (∃ v, branch.1.evaluate row = .ok v) ∧ ∃ w, branch.2.evaluate row = .ok w) :
    ∃ taken, firstBranch row branches = .ok taken := by
  induction branches with
  | nil => exact ⟨none, rfl⟩
  | cons branch rest ih =>
    obtain ⟨cond, result⟩ := branch
    obtain ⟨⟨v, hv⟩, w, hw⟩ := h (cond, result) List.mem_cons_self
    obtain ⟨taken, htaken⟩ := ih fun branch hmem => h branch (List.mem_cons_of_mem _ hmem)
    rw [firstBranch_cons, hv]
    by_cases hcond : v.toBool? = some true
    · exact ⟨_, (if_pos hcond).trans (bind_eq_ok_iff.2 ⟨w, hw, rfl⟩)⟩
    · exact ⟨taken, (if_neg hcond).trans htaken⟩

/-- A case expression does not fail if its parts do not. -/
theorem total_ofBranches {branches : List (TypedExpr × TypedExpr)} {otherwise : Option TypedExpr}
    {t : TypedExpr}
    (hbranches : ∀ branch ∈ branches, branch.1.Total schema ∧ branch.2.Total schema)
    (hotherwise : ∀ e, otherwise = some e → e.Total schema)
    (h : ofBranches branches otherwise = .ok t) : t.Total schema := by
  refine ⟨fun row hrow => ?_, sound_ofBranches (fun branch hmem => (hbranches branch hmem).2.sound)
    (fun e he => (hotherwise e he).sound) h⟩
  obtain ⟨type, htype, heq⟩ := bind_eq_ok_iff.1 h
  obtain rfl := Except.ok.inj heq
  have hwidens := commonType_widens htype
  obtain ⟨taken, htaken⟩ : ∃ taken, firstBranch row
      (branches.map fun branch => (branch.1, branch.2.castTo type)) = .ok taken := by
    refine exists_firstBranch fun branch hmem => ?_
    obtain ⟨source, hsource, rfl⟩ := List.mem_map.1 hmem
    obtain ⟨hcond, hresult⟩ := hbranches source hsource
    refine ⟨hcond.succeeds row hrow, (total_castTo hresult (hwidens _ ?_)).succeeds row hrow⟩
    exact List.mem_append_left _ (List.mem_map_of_mem hsource)
  rw [evaluate_case, htaken]
  cases taken with
  | some v => exact ⟨v, rfl⟩
  | none =>
    cases otherwise with
    | none => exact ⟨.null, rfl⟩
    | some e =>
      exact (total_castTo (hotherwise e rfl) (hwidens _ (List.mem_append_right _
        (List.mem_singleton_self _)))).succeeds row hrow

end TypedExpr

/-! ## Elementary expressions -/

namespace Expr

/-- An expression that does not fail by itself: no cast, no call, and no arithmetic on
integers. -/
def Elementary (schema : Schema) (functions : Registry) : Expr → Prop
  | cast .. => False
  | call .. => False
  | arith op l r => ∀ t, (arith op l r).typed schema functions = .ok t →
      t.dataType ≠ .int32 ∧ t.dataType ≠ .int64
  | _ => True

variable {schema : Schema} {functions : Registry}

/-- An expression of elementary parts does not fail on rows that fit the schema. -/
theorem total_typed (e : Expr) (helementary : e.AllParts (Elementary schema functions)) :
    ∀ t, e.typed schema functions = .ok t → t.Total schema := by
  induction e using Expr.induct with
  | column c =>
    intro t h
    rw [typed_column] at h
    obtain ⟨i, hi, heq⟩ := bind_eq_ok_iff.1 h
    exact Except.ok.inj heq ▸ TypedExpr.total_column (Schema.resolve_lt_width hi)
  | literal v =>
    intro t h
    rw [typed_literal] at h
    obtain ⟨value, -, heq⟩ := bind_eq_ok_iff.1 h
    exact Except.ok.inj heq ▸ TypedExpr.total_literal value
  | compare op l r ihl ihr =>
    intro t h
    rw [typed_compare] at h
    obtain ⟨left, hleft, h⟩ := bind_eq_ok_iff.1 h
    obtain ⟨right, hright, h⟩ := bind_eq_ok_iff.1 h
    exact TypedExpr.total_ofCompare (ihl (helementary.child List.mem_cons_self) left hleft)
      (ihr (helementary.child (List.mem_cons_of_mem _ List.mem_cons_self)) right hright) h
  | arith op l r ihl ihr =>
    intro t h
    have hinteger := helementary.self t h
    rw [typed_arith] at h
    obtain ⟨left, hleft, h⟩ := bind_eq_ok_iff.1 h
    obtain ⟨right, hright, h⟩ := bind_eq_ok_iff.1 h
    exact TypedExpr.total_ofArith (ihl (helementary.child List.mem_cons_self) left hleft)
      (ihr (helementary.child (List.mem_cons_of_mem _ List.mem_cons_self)) right hright) h hinteger
  | cast e target _ => exact helementary.self.elim
  | connect op l r ihl ihr =>
    intro t h
    rw [typed_connect] at h
    obtain ⟨left, hleft, h⟩ := bind_eq_ok_iff.1 h
    obtain ⟨left', hleft', h⟩ := bind_eq_ok_iff.1 h
    obtain ⟨right, hright, h⟩ := bind_eq_ok_iff.1 h
    obtain ⟨right', hright', heq⟩ := bind_eq_ok_iff.1 h
    have hl := ihl (helementary.child List.mem_cons_self) left hleft
    have hr := ihr (helementary.child (List.mem_cons_of_mem _ List.mem_cons_self)) right hright
    exact Except.ok.inj heq ▸ TypedExpr.total_connect op
      (TypedExpr.total_requireBoolean hl hleft') (TypedExpr.total_requireBoolean hr hright')
  | not e ih =>
    intro t h
    rw [typed_not] at h
    obtain ⟨inner, hinner, h⟩ := bind_eq_ok_iff.1 h
    obtain ⟨inner', hinner', heq⟩ := bind_eq_ok_iff.1 h
    have he := ih (helementary.child List.mem_cons_self) inner hinner
    exact Except.ok.inj heq ▸ TypedExpr.total_not (TypedExpr.total_requireBoolean he hinner')
  | isNull e ih =>
    intro t h
    rw [typed_isNull] at h
    obtain ⟨inner, hinner, heq⟩ := bind_eq_ok_iff.1 h
    have he := ih (helementary.child List.mem_cons_self) inner hinner
    exact Except.ok.inj heq ▸ TypedExpr.total_isNull he false
  | isNotNull e ih =>
    intro t h
    rw [typed_isNotNull] at h
    obtain ⟨inner, hinner, heq⟩ := bind_eq_ok_iff.1 h
    have he := ih (helementary.child List.mem_cons_self) inner hinner
    exact Except.ok.inj heq ▸ TypedExpr.total_isNull he true
  | case branches otherwise ihbranches ihotherwise =>
    intro t h
    rw [typed_case] at h
    split at h
    · cases h
    · obtain ⟨typedBranches, hbranches, h⟩ := bind_eq_ok_iff.1 h
      obtain ⟨typedOtherwise, hotherwise, h⟩ := bind_eq_ok_iff.1 h
      refine TypedExpr.total_ofBranches ?_ ?_ h
      · intro typed hmem
        obtain ⟨branch, hbranch, hform⟩ :=
          exists_mem_of_forall₂ (forall₂_of_typedBranches hbranches) hmem
        obtain ⟨hcond, hresult⟩ := @mem_children_of_branch branches otherwise branch hbranch
        obtain ⟨ihcond, ihresult⟩ := ihbranches branch hbranch
        obtain ⟨cond, htyped, hbool⟩ := hform.condition
        have hcondition := ihcond (helementary.child hcond) cond htyped
        exact ⟨TypedExpr.total_requireBoolean hcondition hbool,
          ihresult (helementary.child hresult) typed.2 hform.result⟩
      · rintro typed rfl
        obtain ⟨e, rfl, hform⟩ := exists_of_typedOtherwise hotherwise
        exact ihotherwise e rfl (helementary.child mem_children_of_otherwise) typed hform
  | call name arguments _ => exact helementary.self.elim

/-- Errors say in which phase they arise.  Over built-in functions, compiling fails with type
resolution errors only.  Over any functions and on any row, evaluating what compiled fails with
execution errors only, and on rows that fit the schema an expression without casts, calls and
integer arithmetic does not fail at all. -/
theorem errors_by_phase (schema : Schema) (e : Expr) :
    (∀ functions : Registry, (∀ name f, functions.find? name = some f → f ∈ Builtin.all) →
      ∀ err, e.compile schema functions = .error err → err.kind = .typeResolution) ∧
    ∀ (functions : Registry) (compiled : CompiledExpr),
      e.compile schema functions = .ok compiled →
      (∀ row err, compiled.evaluate row = .error err → err.kind = .execution) ∧
      (e.AllParts (Elementary schema functions) →
        ∀ row : Row, row.Fits schema → ∃ v, compiled.evaluate row = .ok v) := by
  constructor
  · intro functions hbuiltin
    have hrefuses : functions.Refuses .typeResolution := fun name f hf =>
      Builtin.failsAs_returnType (hbuiltin name f hf)
    exact (failsAs_typed hrefuses e).bind fun _ _ => failsWith_ok _
  · intro functions compiled hcompiled
    obtain ⟨t, ht, rfl⟩ := compile_eq_ok_iff.1 hcompiled
    exact ⟨fun row => TypedExpr.failsAs_evaluate row t, fun helementary =>
      (total_typed e helementary t ht).succeeds⟩

/-- Whether the column `A` is above a 64-bit integer, and something unknown. -/
def aboveOneAndUnknown : Expr :=
  .connect .and (.compare .gt (.column ⟨none, "A"⟩) (.literal (.int64 1))) (.literal .null)

/-- Over a 32-bit column this takes two casts, of the column and of the null; neither fails. -/
theorem errors_by_phase_aboveOneAndUnknown :
    ∃ compiled, aboveOneAndUnknown.compile ⟨[⟨"A", .int32⟩]⟩ .builtins = .ok compiled ∧
      (∀ err, aboveOneAndUnknown.compile ⟨[]⟩ .builtins = .error err →
        err.kind = .typeResolution) ∧
      (∀ row err, compiled.evaluate row = .error err → err.kind = .execution) ∧
      ∃ v, compiled.evaluate ⟨[.int32 5]⟩ = .ok v := by
  obtain ⟨compiled, hcompiled⟩ :
      ∃ compiled, aboveOneAndUnknown.compile ⟨[⟨"A", .int32⟩]⟩ .builtins = .ok compiled :=
    ⟨_, rfl⟩
  have hleaf : ∀ e : Expr, e.children = [] → e.Elementary ⟨[⟨"A", .int32⟩]⟩ .builtins →
      e.AllParts (Elementary ⟨[⟨"A", .int32⟩]⟩ .builtins) := by
    intro e hchildren he
    refine .mk he fun c hc => ?_
    rw [hchildren] at hc
    cases hc
  have helementary : aboveOneAndUnknown.AllParts (Elementary ⟨[⟨"A", .int32⟩]⟩ .builtins) := by
    refine .mk trivial (List.forall_mem_cons.2 ⟨.mk trivial ?_, ?_⟩)
    · exact List.forall_mem_cons.2 ⟨hleaf _ rfl trivial,
        List.forall_mem_singleton.2 (hleaf _ rfl trivial)⟩
    · exact List.forall_mem_singleton.2 (hleaf _ rfl trivial)
  obtain ⟨hexecution, htotal⟩ := (errors_by_phase _ _).2 _ _ hcompiled
  refine ⟨compiled, hcompiled, ?_, hexecution, htotal helementary _ (by decide)⟩
  exact (errors_by_phase ⟨[]⟩ aboveOneAndUnknown).1 .builtins
    fun _ _ => Registry.mem_all_of_find?_builtins

end Expr

end StreamPlan
