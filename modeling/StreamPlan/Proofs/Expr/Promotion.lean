import StreamPlan.Proofs.Expr.MeetingType
import StreamPlan.Proofs.Expr.NoFailure
import StreamPlan.Proofs.Function.Promotion

/-!
# Expressions over promoted columns

Columns of 32-bit integers can be promoted without looking at the expressions over them.  Types
drift upwards through an expression, but nowhere do they begin to be refused, and where a value
was computed with 32 bits the same one is computed with 64.

Main results:

- `TypedExpr.PromotesTo`: a typed expression and one over promoted columns.
- `TypedExpr.PromotesTo.castTo`: operands that are cast to where their types meet.
- `Expr.follows_typed`: the two typed forms of one expression.
- `Expr.compile_promotes`: expressions over the built-in functions.
-/

namespace StreamPlan

/-! ## Arithmetic -/

/-- A result that fits 32 bits is the result with 64 bits. -/
theorem ArithOp.onInt64_of_onInt32 {op : ArithOp} {a b : Int} {n : Int32}
    (h : op.onInt32 a b = .ok n) : op.onInt64 a b = .ok n.toInt64 := by
  obtain ⟨wide, hwide, hnarrow⟩ := bind_eq_ok_iff.1 h
  unfold narrow32 at hnarrow
  split at hnarrow
  · rename_i m hm
    obtain rfl := Except.ok.inj hnarrow
    have hsame : m.toInt64 = wide := by
      rw [← Int64.toInt_inj, Int32.toInt_toInt64]
      exact Word.int32?_eq_some_iff.1 hm
    rw [hwide, hsame]
  · cases hnarrow

/-- Where arithmetic has a result, it has the promoted one on promoted values. -/
theorem ArithOp.follows_onValues (op : ArithOp) {a b : Value} {type wide : DataType}
    (ha : a.Fits type) (hb : b.Fits type) (h : type.PromotesTo wide) :
    Follows (fun v w => w = v.promote wide) (op.onValues a b)
      (op.onValues (a.promote wide) (b.promote wide)) := by
  rcases h with rfl | ⟨rfl, rfl⟩
  · rw [Value.promote_of_fits ha, Value.promote_of_fits hb]
    exact Follows.refl fun v hv =>
      (Value.promote_of_fits (TypedExpr.fits_of_onValues ha hv)).symm
  · rcases Value.eq_null_or_int32_of_fits ha with rfl | ⟨m, rfl⟩
    · exact follows_ok rfl
    · rcases Value.eq_null_or_int32_of_fits hb with rfl | ⟨n, rfl⟩
      · exact follows_ok rfl
      · change Follows _ ((op.onInt32 m.toInt n.toInt).map Value.int32)
          ((op.onInt64 m.toInt64.toInt n.toInt64.toInt).map Value.int64)
        rw [Int32.toInt_toInt64, Int32.toInt_toInt64]
        intro v hv
        obtain ⟨k, hk, rfl⟩ := map_eq_ok_iff.1 hv
        exact ⟨_, map_eq_ok_iff.2 ⟨_, onInt64_of_onInt32 hk, rfl⟩, rfl⟩

/-! ## Typed expressions -/

/-- A defined cast stays defined from a promoted type. -/
theorem DataType.PromotesTo.castsTo {type wide target : DataType} (h : type.PromotesTo wide)
    (hcast : type.castsTo target = true) : wide.castsTo target = true := by
  rcases h with rfl | ⟨rfl, rfl⟩
  · exact hcast
  · have hreads : target.isNumeric = true ∨ target = .utf8 := by
      by_cases hsame : target = .int32
      · exact Or.inl (hsame ▸ rfl)
      · have hnumeric : DataType.int32.isNumeric = true := rfl
        simpa [DataType.castsTo, Ne.symm hsame, hnumeric] using hcast
    rcases hreads with hnumeric | rfl
    · have hwide : DataType.int64.isNumeric = true := rfl
      simp [DataType.castsTo, hwide, hnumeric]
    · rfl

namespace TypedExpr

variable {before after : Schema}

/-- The value of an operand is the value of the expression cast to where the types meet. -/
theorem evaluate_castTo {e : TypedExpr} {row : Row} {target : DataType} (htarget : target ≠ .null)
    (hfits : ∀ v, e.evaluate row = .ok v → v.Fits e.dataType) :
    (e.castTo target).evaluate row = e.evaluate row >>= fun v => v.cast target := by
  unfold castTo
  split
  · rename_i hsame
    have htype : e.dataType = target := hsame.resolve_right htarget
    cases hvalue : e.evaluate row with
    | error fault => rfl
    | ok v => exact (Value.cast_of_fits (htype ▸ hfits v hvalue)).symm
  · rfl

/-- One expression over the columns before and after they are promoted: its type is promoted, and
where it has a value on a row that fits, it has the promoted one on the promoted row. -/
structure PromotesTo (before after : Schema) (e wide : TypedExpr) : Prop where
  dataType : e.dataType.PromotesTo wide.dataType
  sound : e.Sound before
  evaluate : ∀ row : Row, row.Fits before →
    Follows (fun v w => w = v.promote wide.dataType) (e.evaluate row)
      (wide.evaluate (row.promote after))

/-- The branches of a case expression over the columns before and after they are promoted. -/
structure BranchPromotesTo (before after : Schema) (branch wide : TypedExpr × TypedExpr) :
    Prop where
  condition : PromotesTo before after branch.1 wide.1
  result : PromotesTo before after branch.2 wide.2

namespace PromotesTo

variable {e wide left right left' right' : TypedExpr}

/-- An operand is cast to a promoted type. -/
theorem castTo (h : PromotesTo before after e wide) {target target' : DataType}
    (htarget : target.PromotesTo target') :
    PromotesTo before after (e.castTo target) (wide.castTo target') := by
  by_cases hnull : target = .null
  · have hnull' : target' = .null := htarget.eq_null_iff.2 hnull
    rw [TypedExpr.castTo, if_pos (Or.inr hnull), TypedExpr.castTo, if_pos (Or.inr hnull')]
    exact h
  · have hnull' : target' ≠ .null := fun hcontra => hnull (htarget.eq_null_iff.1 hcontra)
    refine ⟨?_, sound_castTo h.sound fun hcontra => absurd hcontra hnull, fun row hrow => ?_⟩
    · rw [dataType_castTo hnull, dataType_castTo hnull']
      exact htarget
    · rw [dataType_castTo hnull', evaluate_castTo hnull (h.sound row hrow)]
      intro w hw
      obtain ⟨v, hv, hcast⟩ := bind_eq_ok_iff.1 hw
      obtain ⟨_, hv', rfl⟩ := h.evaluate row hrow v hv
      refine ⟨w.promote target', ?_, rfl⟩
      have hfits : ∀ x, wide.evaluate (row.promote after) = .ok x → x.Fits wide.dataType := by
        intro x hx
        obtain rfl := Except.ok.inj (hv'.symm.trans hx)
        exact Value.fits_promote (h.sound row hrow v hv) h.dataType
      rw [evaluate_castTo hnull' hfits, hv']
      exact Value.cast_promote htarget hcast

/-- An operand has a value of the type on which the operands meet, and the promoted value after
the columns are promoted. -/
theorem operand (h : PromotesTo before after e wide) {type type' : DataType}
    (htype : type.PromotesTo type') (hnull : type = .null → e.dataType = .null) {row : Row}
    (hrow : row.Fits before) :
    Follows (fun v w => v.Fits type ∧ w = v.promote type') ((e.castTo type).evaluate row)
      ((wide.castTo type').evaluate (row.promote after)) := by
  have hdataType : (wide.castTo type').dataType = type' := by
    by_cases hnull' : type' = .null
    · rw [TypedExpr.castTo, if_pos (Or.inr hnull'), hnull']
      exact h.dataType.eq_null_iff.2 (hnull (htype.eq_null_iff.1 hnull'))
    · exact dataType_castTo hnull'
  have hcast := (h.castTo htype).evaluate row hrow
  rw [hdataType] at hcast
  exact hcast.and_left (yields_castTo h.sound hnull row hrow)

/-- An operand that stands for a boolean still does. -/
theorem requireBoolean (h : PromotesTo before after e wide) (place : BooleanPlace)
    (source : Expr) :
    Follows (PromotesTo before after) (e.requireBoolean place source)
      (wide.requireBoolean place source) := by
  unfold TypedExpr.requireBoolean
  rcases h.dataType with hsame | ⟨hint32, -⟩
  · rw [hsame]
    split
    · exact follows_ok h
    · split
      · exact follows_ok (h.castTo (.refl .boolean))
      · exact follows_error _ _
  · rw [hint32]
    exact follows_error _ _

/-- A column is promoted. -/
theorem column (hschema : before.PromotesTo after) {i : Nat} (hi : i < before.width) :
    PromotesTo before after (column i (before.typeAt i)) (column i (after.typeAt i)) :=
  ⟨hschema.typeAt i, sound_column hi, fun row _ => follows_ok (Row.get_promote after row i)⟩

/-- A literal stays as it is. -/
theorem literal (v : Value) : PromotesTo before after (literal v) (literal v) :=
  ⟨.refl _, sound_literal v, fun _ _ =>
    follows_ok (Value.promote_of_fits v.fits_dataType).symm⟩

/-- A negation of one expression. -/
theorem not (h : PromotesTo before after e wide) :
    PromotesTo before after (TypedExpr.not e) (TypedExpr.not wide) := by
  refine ⟨.refl _, sound_not e, fun row hrow => (h.evaluate row hrow).bind ?_⟩
  rintro v _ rfl
  rw [Value.toBool?_promote]
  exact follows_ok (Value.promote_boolean _).symm

/-- A test of one expression for null. -/
theorem isNull (h : PromotesTo before after e wide) (negated : Bool) :
    PromotesTo before after (isNull e negated) (isNull wide negated) := by
  refine ⟨.refl _, sound_isNull e negated, fun row hrow => (h.evaluate row hrow).bind ?_⟩
  rintro v _ rfl
  rw [Value.isNull_promote]
  exact follows_ok rfl

/-- A connective of the same sides. -/
theorem connect (hl : PromotesTo before after left left')
    (hr : PromotesTo before after right right') (op : Connective) :
    PromotesTo before after (connect op left right) (connect op left' right') := by
  refine ⟨.refl _, sound_connect op left right, fun row hrow => ?_⟩
  rw [evaluate_connect, evaluate_connect]
  refine (hl.evaluate row hrow).bind ?_
  rintro a _ rfl
  rw [Value.toBool?_promote]
  split
  · exact follows_ok rfl
  · refine (hr.evaluate row hrow).bind ?_
    rintro b _ rfl
    rw [Value.toBool?_promote]
    exact follows_ok (Value.promote_boolean _).symm

/-- A cast of one expression to one type stays defined. -/
theorem ofCast (h : PromotesTo before after e wide) (target : DataType) :
    Follows (PromotesTo before after) (e.ofCast target) (wide.ofCast target) := by
  unfold TypedExpr.ofCast
  by_cases hcast : e.dataType.castsTo target = true
  · rw [if_pos hcast, if_pos (h.dataType.castsTo hcast)]
    exact follows_ok (h.castTo (.refl target))
  · rw [if_neg hcast]
    exact follows_error _ _

/-- A comparison of the same sides, which meet on a promoted type. -/
theorem ofCompare (hl : PromotesTo before after left left')
    (hr : PromotesTo before after right right') (op : CompareOp) :
    Follows (PromotesTo before after) (ofCompare op left right) (ofCompare op left' right') := by
  intro t ht
  obtain ⟨type, htype, heq⟩ := bind_eq_ok_iff.1 ht
  obtain rfl := Except.ok.inj heq
  obtain ⟨type', htype', hpromoted⟩ := comparisonType_promotes op hl.dataType hr.dataType type htype
  obtain ⟨hleft, hright⟩ := comparisonType_widens htype
  refine ⟨_, bind_eq_ok_iff.2 ⟨type', htype', rfl⟩, .refl _, sound_compare _ _ _, fun row hrow => ?_⟩
  rw [evaluate_compare, evaluate_compare]
  refine (hl.operand hpromoted (fun hnull => (hnull ▸ hleft).eq_null) hrow).bind ?_
  rintro a _ ⟨ha, rfl⟩
  refine (hr.operand hpromoted (fun hnull => (hnull ▸ hright).eq_null) hrow).bind ?_
  rintro b _ ⟨hb, rfl⟩
  refine follows_ok ?_
  unfold CompareOp.onValues
  rw [Value.compare?_promote ha hb hpromoted]
  exact (Value.promote_boolean _).symm

/-- Arithmetic on the same sides, of a promoted type. -/
theorem ofArith (hl : PromotesTo before after left left')
    (hr : PromotesTo before after right right') (op : ArithOp) :
    Follows (PromotesTo before after) (ofArith op left right) (ofArith op left' right') := by
  intro t ht
  have hsound := sound_ofArith hl.sound ht
  obtain ⟨type, htype, heq⟩ := bind_eq_ok_iff.1 ht
  obtain rfl := Except.ok.inj heq
  obtain ⟨type', htype', hpromoted⟩ := arithmeticType_promotes op hl.dataType hr.dataType type htype
  have hnull : type ≠ .null := arithmeticType_ne_null htype
  refine ⟨_, bind_eq_ok_iff.2 ⟨type', htype', rfl⟩, hpromoted, hsound, fun row hrow => ?_⟩
  rw [evaluate_arith, evaluate_arith]
  refine (hl.operand hpromoted (fun hcontra => absurd hcontra hnull) hrow).bind ?_
  rintro a _ ⟨ha, rfl⟩
  refine (hr.operand hpromoted (fun hcontra => absurd hcontra hnull) hrow).bind ?_
  rintro b _ ⟨hb, rfl⟩
  exact op.follows_onValues ha hb hpromoted

end PromotesTo

/-! ### Case expressions -/

/-- Where a branch is taken, the same branch is taken with the promoted value. -/
theorem follows_firstBranch {row row' : Row} {type : DataType}
    {branches wides : List (TypedExpr × TypedExpr)}
    (h : List.Forall₂ (fun branch wide =>
      Follows (fun v w => w.toBool? = v.toBool?) (branch.1.evaluate row) (wide.1.evaluate row') ∧
        Follows (fun v w => w = v.promote type) (branch.2.evaluate row) (wide.2.evaluate row'))
      branches wides) :
    Follows (fun taken other => other = taken.map (Value.promote type))
      (firstBranch row branches) (firstBranch row' wides) := by
  induction h with
  | nil => exact follows_ok rfl
  | @cons branch wide _ _ hbranch _ ih =>
    obtain ⟨cond, result⟩ := branch
    obtain ⟨cond', result'⟩ := wide
    rw [firstBranch_cons, firstBranch_cons]
    refine hbranch.1.bind fun v w hcond => ?_
    rw [hcond]
    split
    · exact hbranch.2.bind fun v w hresult => follows_ok (congrArg some hresult)
    · exact ih

/-- The types of the results of a case expression are promoted. -/
theorem forall₂_resultTypes {branches wides : List (TypedExpr × TypedExpr)}
    {otherwise otherwise' : Option TypedExpr}
    (hbranches : List.Forall₂ (BranchPromotesTo before after) branches wides)
    (hotherwise : Option.Rel (PromotesTo before after) otherwise otherwise') :
    List.Forall₂ DataType.PromotesTo
      (branches.map (·.2.dataType) ++ otherwise.toList.map dataType)
      (wides.map (·.2.dataType) ++ otherwise'.toList.map dataType) := by
  refine List.rel_append ?_ ?_
  · rw [List.forall₂_map_left_iff, List.forall₂_map_right_iff]
    exact hbranches.imp fun _ _ hbranch => hbranch.result.dataType
  · cases hotherwise with
    | none => exact .nil
    | some he => exact .cons he.dataType .nil

/-- The same branch is taken when the results are cast to a promoted type. -/
theorem follows_firstBranch_castTo {branches wides : List (TypedExpr × TypedExpr)}
    (h : List.Forall₂ (BranchPromotesTo before after) branches wides) {type type' : DataType}
    (hpromoted : type.PromotesTo type')
    (hnull : ∀ branch ∈ branches, type = .null → branch.2.dataType = .null) {row : Row}
    (hrow : row.Fits before) :
    Follows (fun taken other => other = taken.map (Value.promote type'))
      (firstBranch row (branches.map fun branch => (branch.1, branch.2.castTo type)))
      (firstBranch (row.promote after)
        (wides.map fun branch => (branch.1, branch.2.castTo type'))) := by
  refine follows_firstBranch ?_
  rw [List.forall₂_map_left_iff, List.forall₂_map_right_iff]
  refine ((List.forall₂_and_left branches wides).2 ⟨hnull, h⟩).imp fun branch wide hbranch => ?_
  obtain ⟨hnull, hcondition, hresult⟩ := hbranch
  refine ⟨(hcondition.evaluate row hrow).imp ?_,
    (hresult.operand hpromoted hnull hrow).imp fun _ _ hvalue => hvalue.2⟩
  rintro v _ rfl
  exact Value.toBool?_promote _ v

/-- A case expression of the same parts, of a promoted type. -/
theorem follows_ofBranches {branches wides : List (TypedExpr × TypedExpr)}
    {otherwise otherwise' : Option TypedExpr}
    (hbranches : List.Forall₂ (BranchPromotesTo before after) branches wides)
    (hotherwise : Option.Rel (PromotesTo before after) otherwise otherwise') :
    Follows (PromotesTo before after) (ofBranches branches otherwise)
      (ofBranches wides otherwise') := by
  intro t ht
  have hresults : ∀ branch ∈ branches, branch.2.Sound before :=
    forall_left_of_forall₂ hbranches fun _ _ hbranch => hbranch.result.sound
  have halternative : ∀ e, otherwise = some e → e.Sound before := by
    rintro e rfl
    cases hotherwise with
    | some he => exact he.sound
  have hsound := sound_ofBranches hresults halternative ht
  obtain ⟨type, htype, heq⟩ := bind_eq_ok_iff.1 ht
  obtain rfl := Except.ok.inj heq
  obtain ⟨type', htype', hpromoted⟩ :=
    commonType_promotes (forall₂_resultTypes hbranches hotherwise) type htype
  refine ⟨_, bind_eq_ok_iff.2 ⟨type', htype', rfl⟩, hpromoted, hsound, fun row hrow => ?_⟩
  -- A common null type is no cast, so there every part has to be null already.
  have hnull : ∀ found ∈ branches.map (·.2.dataType) ++ otherwise.toList.map dataType,
      type = .null → found = .null := by
    rintro found hmem rfl
    exact commonType_eq_null htype found hmem
  have hnullResults : ∀ branch ∈ branches, type = .null → branch.2.dataType = .null :=
    fun branch hmem => hnull _ (List.mem_append_left _ (List.mem_map_of_mem hmem))
  rw [evaluate_case, evaluate_case]
  refine (follows_firstBranch_castTo hbranches hpromoted hnullResults hrow).bind ?_
  rintro taken _ rfl
  cases taken with
  | some v => exact follows_ok rfl
  | none =>
    cases hotherwise with
    | none => exact follows_ok rfl
    | @some e _ he =>
      have hmem : e.dataType ∈ branches.map (·.2.dataType) ++ [e.dataType] :=
        List.mem_append_right _ (List.mem_singleton_self _)
      exact (he.operand hpromoted (hnull _ hmem) hrow).imp fun _ _ hvalue => hvalue.2

/-! ### Calls -/

/-- Where all arguments have values, they have the promoted ones. -/
theorem follows_evaluateAll {arguments wides : List TypedExpr}
    (h : List.Forall₂ (PromotesTo before after) arguments wides) {row : Row}
    (hrow : row.Fits before) :
    Follows (fun values others => others = Value.promoteAll (wides.map dataType) values)
      (evaluateAll row arguments) (evaluateAll (row.promote after) wides) := by
  induction h with
  | nil => exact follows_ok rfl
  | cons he _ ih =>
    rw [evaluateAll_cons, evaluateAll_cons]
    refine (he.evaluate row hrow).bind ?_
    rintro v _ rfl
    refine ih.bind ?_
    rintro values _ rfl
    exact follows_ok rfl

/-- A call of a function that goes along with a promotion, on the same arguments. -/
theorem follows_ofCall {functions : Registry} (hkeeps : functions.KeepsTypes)
    (hpromotes : functions.Promotes) (name : String) {arguments wides : List TypedExpr}
    (h : List.Forall₂ (PromotesTo before after) arguments wides) :
    Follows (PromotesTo before after) (ofCall functions name arguments)
      (ofCall functions name wides) := by
  intro t ht
  have hsound : ∀ e ∈ arguments, e.Sound before :=
    forall_left_of_forall₂ h fun _ _ he => he.sound
  have hcall := sound_ofCall hkeeps hsound ht
  obtain ⟨⟨function, type⟩, hresolve, heq⟩ := bind_eq_ok_iff.1 ht
  obtain rfl := Except.ok.inj heq
  have htypes : List.Forall₂ DataType.PromotesTo (arguments.map dataType)
      (wides.map dataType) := by
    rw [List.forall₂_map_left_iff, List.forall₂_map_right_iff]
    exact h.imp fun _ _ he => he.dataType
  obtain ⟨⟨_, type'⟩, hresolve', rfl, hpromoted⟩ :=
    Registry.resolve_promotes hpromotes name htypes _ hresolve
  obtain ⟨hfind, htype⟩ := Registry.resolve_eq_ok hresolve
  obtain ⟨-, htype'⟩ := Registry.resolve_eq_ok hresolve'
  refine ⟨_, bind_eq_ok_iff.2 ⟨_, hresolve', rfl⟩, hpromoted, hcall, fun row hrow => ?_⟩
  rw [evaluate_apply, evaluate_apply]
  refine ((follows_evaluateAll h hrow).and_left fun values hvalues =>
    fits_of_evaluateAll hsound hrow hvalues).bind ?_
  rintro values _ ⟨hfit, rfl⟩
  exact ((hpromotes name function hfind).invoke htypes htype htype' hfit).mapError _ _

end TypedExpr

/-! ## All expressions -/

namespace Expr

variable {before after : Schema} {functions : Registry}

/-- The typed forms of a list over promoted columns. -/
theorem follows_typedAll {es : List Expr}
    (h : ∀ e ∈ es, Follows (TypedExpr.PromotesTo before after) (e.typed before functions)
      (e.typed after functions)) :
    Follows (List.Forall₂ (TypedExpr.PromotesTo before after)) (typedAll before functions es)
      (typedAll after functions es) := by
  induction es with
  | nil => exact follows_ok .nil
  | cons e rest ih =>
    rw [typedAll_cons, typedAll_cons]
    refine (h e List.mem_cons_self).bind fun a b hab => ?_
    refine (ih fun e he => h e (List.mem_cons_of_mem _ he)).bind fun as bs hrest => ?_
    exact follows_ok (.cons hab hrest)

/-- The typed forms of branches over promoted columns. -/
theorem follows_typedBranches {branches : List (Expr × Expr)}
    (h : ∀ branch ∈ branches,
      Follows (TypedExpr.PromotesTo before after) (branch.1.typed before functions)
          (branch.1.typed after functions) ∧
        Follows (TypedExpr.PromotesTo before after) (branch.2.typed before functions)
          (branch.2.typed after functions)) :
    Follows (List.Forall₂ (TypedExpr.BranchPromotesTo before after))
      (typedBranches before functions branches) (typedBranches after functions branches) := by
  induction branches with
  | nil => exact follows_ok .nil
  | cons branch rest ih =>
    obtain ⟨cond, result⟩ := branch
    obtain ⟨hcond, hresult⟩ := h (cond, result) List.mem_cons_self
    rw [typedBranches_cons, typedBranches_cons]
    refine hcond.bind fun _ _ hab => (hab.requireBoolean _ _).bind fun a b hab => ?_
    refine hresult.bind fun a' b' hab' => ?_
    refine (ih fun branch hmem => h branch (List.mem_cons_of_mem _ hmem)).bind fun as bs hrest => ?_
    exact follows_ok (.cons ⟨hab, hab'⟩ hrest)

/-- The typed form of an alternative over promoted columns. -/
theorem follows_typedOtherwise {otherwise : Option Expr}
    (h : ∀ e, otherwise = some e →
      Follows (TypedExpr.PromotesTo before after) (e.typed before functions)
        (e.typed after functions)) :
    Follows (Option.Rel (TypedExpr.PromotesTo before after))
      (typedOtherwise before functions otherwise) (typedOtherwise after functions otherwise) := by
  cases otherwise with
  | none => exact follows_ok .none
  | some e =>
    rw [typedOtherwise_some, typedOtherwise_some]
    exact (h e rfl).bind fun a b hab => follows_ok (.some hab)

/-- An expression that has a typed form over columns has a promoted one over the promoted
columns, over functions that keep their types and go along with a promotion. -/
theorem follows_typed (hschema : before.PromotesTo after) (hkeeps : functions.KeepsTypes)
    (hpromotes : functions.Promotes) (e : Expr) :
    Follows (TypedExpr.PromotesTo before after) (e.typed before functions)
      (e.typed after functions) := by
  induction e using Expr.induct with
  | column c =>
    intro t ht
    rw [typed_column] at ht
    obtain ⟨i, hi, heq⟩ := bind_eq_ok_iff.1 ht
    obtain rfl := Except.ok.inj heq
    refine ⟨_, bind_eq_ok_iff.2 ⟨i, (hschema.resolve_eq c).trans hi, rfl⟩, ?_⟩
    exact TypedExpr.PromotesTo.column hschema (Schema.resolve_lt_width hi)
  | literal v =>
    rw [typed_literal, typed_literal]
    refine (Follows.refl (R := Eq) fun _ _ => rfl).bind ?_
    rintro value _ rfl
    exact follows_ok (TypedExpr.PromotesTo.literal value)
  | compare op l r ihl ihr =>
    rw [typed_compare, typed_compare]
    exact ihl.bind fun _ _ hl => ihr.bind fun _ _ hr => hl.ofCompare hr op
  | arith op l r ihl ihr =>
    rw [typed_arith, typed_arith]
    exact ihl.bind fun _ _ hl => ihr.bind fun _ _ hr => hl.ofArith hr op
  | cast e target ih =>
    rw [typed_cast, typed_cast]
    exact ih.bind fun _ _ he => he.ofCast target
  | connect op l r ihl ihr =>
    rw [typed_connect, typed_connect]
    refine ihl.bind fun _ _ hl => (hl.requireBoolean _ _).bind fun _ _ hl => ?_
    refine ihr.bind fun _ _ hr => (hr.requireBoolean _ _).bind fun _ _ hr => ?_
    exact follows_ok (hl.connect hr op)
  | not e ih =>
    rw [typed_not, typed_not]
    refine ih.bind fun _ _ he => (he.requireBoolean _ _).bind fun _ _ he => ?_
    exact follows_ok he.not
  | isNull e ih =>
    rw [typed_isNull, typed_isNull]
    exact ih.bind fun _ _ he => follows_ok (he.isNull false)
  | isNotNull e ih =>
    rw [typed_isNotNull, typed_isNotNull]
    exact ih.bind fun _ _ he => follows_ok (he.isNull true)
  | case branches otherwise ihbranches ihotherwise =>
    rw [typed_case, typed_case]
    split
    · exact follows_error _ _
    · refine (follows_typedBranches ihbranches).bind fun _ _ hbranches => ?_
      refine (follows_typedOtherwise ihotherwise).bind fun _ _ hotherwise => ?_
      exact TypedExpr.follows_ofBranches hbranches hotherwise
  | call name arguments ih =>
    rw [typed_call, typed_call]
    exact (follows_typedAll ih).bind fun _ _ harguments =>
      TypedExpr.follows_ofCall hkeeps hpromotes name harguments

/-- Columns can be promoted under every expression over the built-in functions: it still
compiles, with a promoted type, and wherever it had a value on a row that fits the columns, it
has the promoted value on the promoted row, which fits the promoted columns. -/
theorem compile_promotes (hschema : before.PromotesTo after) {e : Expr} {compiled : CompiledExpr}
    (hcompiled : e.compile before .builtins = .ok compiled) :
    ∃ wide, e.compile after .builtins = .ok wide ∧
      compiled.dataType.PromotesTo wide.dataType ∧
      ∀ row : Row, row.Fits before → (row.promote after).Fits after ∧
        ∀ v, compiled.evaluate row = .ok v →
          wide.evaluate (row.promote after) = .ok (v.promote wide.dataType) := by
  obtain ⟨t, ht, rfl⟩ := compile_eq_ok_iff.1 hcompiled
  obtain ⟨t', ht', hpromotes⟩ := follows_typed hschema Registry.keepsTypes_builtins
    Registry.promotes_builtins e t ht
  refine ⟨⟨e, after, t'⟩, compile_eq_ok_iff.2 ⟨t', ht', rfl⟩, hpromotes.dataType, ?_⟩
  refine fun row hrow => ⟨Row.fits_promote hrow hschema, fun v hv => ?_⟩
  obtain ⟨_, hvalue, rfl⟩ := hpromotes.evaluate row hrow v hv
  exact hvalue

/-- Columns of a quantity, a price and a name. -/
def itemColumns (quantity : DataType) : Schema :=
  ⟨[⟨"QUANTITY", quantity⟩, ⟨"PRICE", .int32⟩, ⟨"NAME", .utf8⟩]⟩

/-- The price of all the pieces where there are several, otherwise the length of the name. -/
def totalOrLength : Expr :=
  .case
    [(.compare .gt (.column ⟨none, "QUANTITY"⟩) (.literal (.int32 1)),
      .arith .times (.column ⟨none, "QUANTITY"⟩) (.call "ABS" [.column ⟨none, "PRICE"⟩]))]
    (some (.call "LEN" [.column ⟨none, "NAME"⟩]))

/-- When the quantity is promoted, so are the type of the expression and its value. -/
theorem compile_promotes_totalOrLength :
    ∃ compiled wide, totalOrLength.compile (itemColumns .int32) .builtins = .ok compiled ∧
      totalOrLength.compile (itemColumns .int64) .builtins = .ok wide ∧
      compiled.dataType = .int32 ∧ wide.dataType = .int64 ∧
      compiled.evaluate ⟨[.int32 3, .int32 20, .utf8 "tea"]⟩ = .ok (.int32 60) ∧
      wide.evaluate ⟨[.int64 3, .int32 20, .utf8 "tea"]⟩ = .ok (.int64 60) := by
  have hschema : (itemColumns .int32).PromotesTo (itemColumns .int64) :=
    .cons ⟨rfl, Or.inr ⟨rfl, rfl⟩⟩ (.cons ⟨rfl, .refl _⟩ (.cons ⟨rfl, .refl _⟩ .nil))
  obtain ⟨compiled, hcompiled, htype, hvalue⟩ :
      ∃ compiled, totalOrLength.compile (itemColumns .int32) .builtins = .ok compiled ∧
        compiled.dataType = .int32 ∧
        compiled.evaluate ⟨[.int32 3, .int32 20, .utf8 "tea"]⟩ = .ok (.int32 60) :=
    ⟨_, rfl, rfl, rfl⟩
  obtain ⟨other, hother, hothertype⟩ :
      ∃ other, totalOrLength.compile (itemColumns .int64) .builtins = .ok other ∧
        other.dataType = .int64 := ⟨_, rfl, rfl⟩
  obtain ⟨wide, hwide, -, hrows⟩ := compile_promotes hschema hcompiled
  obtain rfl := Except.ok.inj (hwide.symm.trans hother)
  have hpromoted := (hrows _ (by decide)).2 _ hvalue
  rw [hothertype] at hpromoted
  exact ⟨compiled, wide, hcompiled, hwide, htype, hothertype, hvalue, hpromoted⟩

end Expr

end StreamPlan
