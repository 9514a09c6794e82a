import StreamPlan.Proofs.Expr.CommonType
import StreamPlan.Proofs.Function.ReturnType

/-!
# Type soundness of expressions

The static type of an expression is found far from the code that evaluates it: operands
are cast where types meet, nulls adapt to anything, and functions declare what they
return.  On rows that fit the schema the two agree.

Main results:

- `TypedExpr.Sound`: what an expression evaluates to fits its static type.
- `Expr.sound_typed`: every expression that has a typed form is sound.
- `Expr.evaluate_fits_dataType`: type soundness over any functions that keep their types.
-/

namespace StreamPlan

namespace TypedExpr

variable {schema : Schema}

/-- On rows that fit the schema, whatever the expression evaluates to fits the type. -/
def Yields (schema : Schema) (type : DataType) (e : TypedExpr) : Prop :=
  ∀ row : Row, row.Fits schema → ∀ v, e.evaluate row = .ok v → v.Fits type

/-- The expression yields its static type. -/
def Sound (schema : Schema) (e : TypedExpr) : Prop := e.Yields schema e.dataType

/-! ## Casts between operand types -/

/-- A cast yields its target. -/
theorem yields_cast (e : TypedExpr) (target : DataType) : (cast e target).Yields schema target := by
  intro row _ v hv
  rw [evaluate_cast] at hv
  obtain ⟨w, -, hcast⟩ := bind_eq_ok_iff.1 hv
  exact Value.fits_of_cast hcast

/-- A sound expression yields the type it is cast to.  The null type is no cast, so the
expression has to be of it already. -/
theorem yields_castTo {e : TypedExpr} (he : e.Sound schema) {target : DataType}
    (hnull : target = .null → e.dataType = .null) : (e.castTo target).Yields schema target := by
  unfold castTo
  split
  · rename_i hcond
    have htype : e.dataType = target := by
      rcases hcond with heq | heq
      · exact heq
      · rw [hnull heq, heq]
    exact htype ▸ he
  · exact yields_cast e target

/-- An expression that yields the type it is cast to is sound as a cast. -/
theorem sound_castTo {e : TypedExpr} (he : e.Sound schema) {target : DataType}
    (hnull : target = .null → e.dataType = .null) : (e.castTo target).Sound schema := by
  by_cases htarget : target = .null
  · have hsame : e.castTo target = e := by
      rw [castTo, if_pos (Or.inr htarget)]
    rw [hsame]
    exact he
  · unfold Sound
    rw [dataType_castTo htarget]
    exact yields_castTo he hnull

/-- Only a null is cast to the null type. -/
theorem eq_null_of_castsTo_null {source : DataType} (h : source.castsTo .null = true) :
    source = .null := by
  simpa [DataType.castsTo, DataType.isNumeric, DataType.numericRank?, DataType.timeOfDay] using h

/-- A defined cast of a sound expression is sound. -/
theorem sound_ofCast {e t : TypedExpr} (he : e.Sound schema) {target : DataType}
    (h : e.ofCast target = .ok t) : t.Sound schema := by
  unfold ofCast at h
  split at h
  · rename_i hcast
    obtain rfl := Except.ok.inj h
    exact sound_castTo he fun htarget => eq_null_of_castsTo_null (htarget ▸ hcast)
  · cases h

/-! ## Columns, literals and tests -/

/-- A resolved column is sound. -/
theorem sound_column {i : Nat} (hi : i < schema.width) :
    (column i (schema.typeAt i)).Sound schema := by
  intro row hrow v hv
  rw [evaluate_column] at hv
  exact Except.ok.inj hv ▸ hrow i hi

/-- A literal is sound. -/
theorem sound_literal (v : Value) : (literal v).Sound schema := by
  intro row _ w hw
  rw [evaluate_literal] at hw
  exact Except.ok.inj hw ▸ v.fits_dataType

/-- A negation is sound whatever is negated. -/
theorem sound_not (e : TypedExpr) : (TypedExpr.not e).Sound schema := by
  intro row _ v hv
  rw [evaluate_not] at hv
  obtain ⟨w, -, heq⟩ := bind_eq_ok_iff.1 hv
  exact Except.ok.inj heq ▸ Value.ofTruth_fits _

/-- A connective is sound whatever it connects. -/
theorem sound_connect (op : Connective) (left right : TypedExpr) :
    (connect op left right).Sound schema := by
  intro row _ v hv
  rw [evaluate_connect] at hv
  obtain ⟨l, -, hv⟩ := bind_eq_ok_iff.1 hv
  split at hv
  · exact Except.ok.inj hv ▸ Or.inr rfl
  · obtain ⟨r, -, heq⟩ := bind_eq_ok_iff.1 hv
    exact Except.ok.inj heq ▸ Value.ofTruth_fits _

/-- A test for null is sound whatever is tested. -/
theorem sound_isNull (e : TypedExpr) (negated : Bool) : (isNull e negated).Sound schema := by
  intro row _ v hv
  rw [evaluate_isNull] at hv
  obtain ⟨w, -, heq⟩ := bind_eq_ok_iff.1 hv
  exact Except.ok.inj heq ▸ Or.inr rfl

/-! ## Comparison and arithmetic -/

/-- A comparison is sound whatever is compared. -/
theorem sound_compare (op : CompareOp) (left right : TypedExpr) :
    (compare op left right).Sound schema := by
  intro row _ v hv
  rw [evaluate_compare] at hv
  obtain ⟨l, -, hv⟩ := bind_eq_ok_iff.1 hv
  obtain ⟨r, -, heq⟩ := bind_eq_ok_iff.1 hv
  obtain rfl := Except.ok.inj heq
  unfold CompareOp.onValues
  split
  · exact Or.inr rfl
  · exact Value.null_fits _

/-- A comparison of expressions whose types meet is sound. -/
theorem sound_ofCompare {op : CompareOp} {left right t : TypedExpr}
    (h : ofCompare op left right = .ok t) : t.Sound schema := by
  obtain ⟨type, -, heq⟩ := bind_eq_ok_iff.1 h
  exact Except.ok.inj heq ▸ sound_compare op _ _

/-- Arithmetic on values that fit a type stays in the type. -/
theorem fits_of_onValues {op : ArithOp} {a b v : Value} {type : DataType}
    (ha : a.Fits type) (hv : op.onValues a b = .ok v) : v.Fits type := by
  unfold ArithOp.onValues at hv
  split at hv
  · obtain ⟨n, -, rfl⟩ := map_eq_ok_iff.1 hv
    exact Or.inr (ha.resolve_left nofun)
  · obtain ⟨n, -, rfl⟩ := map_eq_ok_iff.1 hv
    exact Or.inr (ha.resolve_left nofun)
  · obtain rfl := Except.ok.inj hv
    exact Or.inr (ha.resolve_left nofun)
  · exact Except.ok.inj hv ▸ Value.null_fits type

/-- Arithmetic on sound expressions whose types meet is sound. -/
theorem sound_ofArith {op : ArithOp} {left right t : TypedExpr} (hl : left.Sound schema)
    (h : ofArith op left right = .ok t) : t.Sound schema := by
  obtain ⟨type, htype, heq⟩ := bind_eq_ok_iff.1 h
  obtain rfl := Except.ok.inj heq
  intro row hrow v hv
  rw [evaluate_arith] at hv
  obtain ⟨a, ha, hv⟩ := bind_eq_ok_iff.1 hv
  obtain ⟨b, -, hv⟩ := bind_eq_ok_iff.1 hv
  have hfits : a.Fits type :=
    yields_castTo hl (fun hnull => absurd hnull (arithmeticType_ne_null htype)) row hrow a ha
  exact fits_of_onValues hfits hv

/-! ## Case expressions -/

/-- The branch taken by a case expression yields what all its results yield. -/
theorem fits_of_firstBranch {type : DataType} {branches : List (TypedExpr × TypedExpr)}
    (h : ∀ branch ∈ branches, branch.2.Yields schema type) {row : Row} (hrow : row.Fits schema)
    {v : Value} (hv : firstBranch row branches = .ok (some v)) : v.Fits type := by
  induction branches with
  | nil => cases hv
  | cons branch rest ih =>
    obtain ⟨cond, result⟩ := branch
    rw [firstBranch_cons] at hv
    obtain ⟨c, -, hv⟩ := bind_eq_ok_iff.1 hv
    split at hv
    · obtain ⟨w, hw, heq⟩ := bind_eq_ok_iff.1 hv
      obtain rfl := Option.some.inj (Except.ok.inj heq)
      exact h (cond, result) List.mem_cons_self row hrow w hw
    · exact ih (fun branch hmem => h branch (List.mem_cons_of_mem _ hmem)) hv

/-- The alternative of a case expression is null when it is missing. -/
theorem fits_of_evaluateOtherwise {type : DataType} {otherwise : Option TypedExpr}
    (h : ∀ e, otherwise = some e → e.Yields schema type) {row : Row} (hrow : row.Fits schema)
    {v : Value} (hv : evaluateOtherwise row otherwise = .ok v) : v.Fits type := by
  cases otherwise with
  | none =>
    rw [evaluateOtherwise_none] at hv
    exact Except.ok.inj hv ▸ Value.null_fits type
  | some e =>
    rw [evaluateOtherwise_some] at hv
    exact h e rfl row hrow v hv

/-- A case expression yields what its results and its alternative yield. -/
theorem yields_case {type : DataType} {branches : List (TypedExpr × TypedExpr)}
    {otherwise : Option TypedExpr}
    (hbranches : ∀ branch ∈ branches, branch.2.Yields schema type)
    (hotherwise : ∀ e, otherwise = some e → e.Yields schema type) :
    (case branches otherwise type).Yields schema type := by
  intro row hrow v hv
  rw [evaluate_case] at hv
  obtain ⟨taken, htaken, hv⟩ := bind_eq_ok_iff.1 hv
  cases taken with
  | some w =>
    obtain rfl := Except.ok.inj hv
    exact fits_of_firstBranch hbranches hrow htaken
  | none => exact fits_of_evaluateOtherwise hotherwise hrow hv

/-- A case expression over sound results that have a common type is sound. -/
theorem sound_ofBranches {branches : List (TypedExpr × TypedExpr)} {otherwise : Option TypedExpr}
    {t : TypedExpr} (hbranches : ∀ branch ∈ branches, branch.2.Sound schema)
    (hotherwise : ∀ e, otherwise = some e → e.Sound schema)
    (h : ofBranches branches otherwise = .ok t) : t.Sound schema := by
  obtain ⟨type, htype, heq⟩ := bind_eq_ok_iff.1 h
  obtain rfl := Except.ok.inj heq
  -- A common null type is no cast, so there every part has to be null already.
  have hnull : ∀ found ∈ branches.map (·.2.dataType) ++ otherwise.toList.map dataType,
      type = .null → found = .null := by
    rintro found hmem rfl
    exact commonType_eq_null htype found hmem
  refine yields_case ?_ ?_
  · intro branch hmem
    obtain ⟨source, hsource, rfl⟩ := List.mem_map.1 hmem
    refine yields_castTo (hbranches source hsource) (hnull _ ?_)
    exact List.mem_append_left _ (List.mem_map_of_mem hsource)
  · intro e he
    obtain ⟨source, hsource, rfl⟩ := Option.map_eq_some_iff.1 he
    refine yields_castTo (hotherwise source hsource) (hnull _ ?_)
    exact List.mem_append_right _ (List.mem_map_of_mem (by simp [hsource]))

/-! ## Function calls -/

/-- The values of sound expressions fit their types. -/
theorem fits_of_evaluateAll {arguments : List TypedExpr}
    (h : ∀ e ∈ arguments, e.Sound schema) {row : Row} (hrow : row.Fits schema)
    {values : List Value} (hv : evaluateAll row arguments = .ok values) :
    List.Forall₂ Value.Fits values (arguments.map dataType) := by
  induction arguments generalizing values with
  | nil =>
    rw [evaluateAll_nil] at hv
    exact Except.ok.inj hv ▸ List.Forall₂.nil
  | cons e rest ih =>
    rw [evaluateAll_cons] at hv
    obtain ⟨first, hfirst, hv⟩ := bind_eq_ok_iff.1 hv
    obtain ⟨others, hothers, heq⟩ := bind_eq_ok_iff.1 hv
    obtain rfl := Except.ok.inj heq
    exact List.Forall₂.cons (h e List.mem_cons_self row hrow first hfirst)
      (ih (fun e' he' => h e' (List.mem_cons_of_mem e he')) hothers)

/-- A call of a function that keeps its types, on sound arguments it accepts, is sound. -/
theorem sound_ofCall {functions : Registry} (hfunctions : functions.KeepsTypes) {name : String}
    {arguments : List TypedExpr} (harguments : ∀ e ∈ arguments, e.Sound schema) {t : TypedExpr}
    (h : ofCall functions name arguments = .ok t) : t.Sound schema := by
  obtain ⟨⟨function, type⟩, hresolve, heq⟩ := bind_eq_ok_iff.1 h
  obtain rfl := Except.ok.inj heq
  obtain ⟨hfind, htype⟩ := Registry.resolve_eq_ok hresolve
  intro row hrow v hv
  rw [evaluate_apply] at hv
  obtain ⟨values, hvalues, hcall⟩ := bind_eq_ok_iff.1 hv
  have hfit := fits_of_evaluateAll harguments hrow hvalues
  exact hfunctions name function hfind _ type values htype hfit v (mapError_eq_ok_iff.1 hcall)

end TypedExpr

/-! ## All expressions -/

namespace Expr

/-- Every expression that has a typed form is sound, over functions that keep their
types. -/
theorem sound_typed {schema : Schema} {functions : Registry} (hfunctions : functions.KeepsTypes)
    (e : Expr) : ∀ t, e.typed schema functions = .ok t → t.Sound schema := by
  induction e using Expr.induct with
  | column c =>
    intro t h
    rw [typed_column] at h
    obtain ⟨i, hi, heq⟩ := bind_eq_ok_iff.1 h
    exact Except.ok.inj heq ▸ TypedExpr.sound_column (Schema.resolve_lt_width hi)
  | literal v =>
    intro t h
    rw [typed_literal] at h
    obtain ⟨value, -, heq⟩ := bind_eq_ok_iff.1 h
    exact Except.ok.inj heq ▸ TypedExpr.sound_literal value
  | compare op l r _ _ =>
    intro t h
    rw [typed_compare] at h
    obtain ⟨left, -, h⟩ := bind_eq_ok_iff.1 h
    obtain ⟨right, -, h⟩ := bind_eq_ok_iff.1 h
    exact TypedExpr.sound_ofCompare h
  | arith op l r ihl _ =>
    intro t h
    rw [typed_arith] at h
    obtain ⟨left, hleft, h⟩ := bind_eq_ok_iff.1 h
    obtain ⟨right, -, h⟩ := bind_eq_ok_iff.1 h
    exact TypedExpr.sound_ofArith (ihl left hleft) h
  | cast e target ih =>
    intro t h
    rw [typed_cast] at h
    obtain ⟨inner, hinner, h⟩ := bind_eq_ok_iff.1 h
    exact TypedExpr.sound_ofCast (ih inner hinner) h
  | connect op l r _ _ =>
    intro t h
    rw [typed_connect] at h
    obtain ⟨left, -, h⟩ := bind_eq_ok_iff.1 h
    obtain ⟨left', -, h⟩ := bind_eq_ok_iff.1 h
    obtain ⟨right, -, h⟩ := bind_eq_ok_iff.1 h
    obtain ⟨right', -, heq⟩ := bind_eq_ok_iff.1 h
    exact Except.ok.inj heq ▸ TypedExpr.sound_connect op left' right'
  | not e _ =>
    intro t h
    rw [typed_not] at h
    obtain ⟨inner, -, h⟩ := bind_eq_ok_iff.1 h
    obtain ⟨inner', -, heq⟩ := bind_eq_ok_iff.1 h
    exact Except.ok.inj heq ▸ TypedExpr.sound_not inner'
  | isNull e _ =>
    intro t h
    rw [typed_isNull] at h
    obtain ⟨inner, -, heq⟩ := bind_eq_ok_iff.1 h
    exact Except.ok.inj heq ▸ TypedExpr.sound_isNull inner false
  | isNotNull e _ =>
    intro t h
    rw [typed_isNotNull] at h
    obtain ⟨inner, -, heq⟩ := bind_eq_ok_iff.1 h
    exact Except.ok.inj heq ▸ TypedExpr.sound_isNull inner true
  | case branches otherwise ihbranches ihotherwise =>
    intro t h
    rw [typed_case] at h
    split at h
    · cases h
    · obtain ⟨typedBranches, hbranches, h⟩ := bind_eq_ok_iff.1 h
      obtain ⟨typedOtherwise, hotherwise, h⟩ := bind_eq_ok_iff.1 h
      refine TypedExpr.sound_ofBranches ?_ ?_ h
      · intro typed hmem
        obtain ⟨branch, hbranch, hform⟩ :=
          exists_mem_of_forall₂ (forall₂_of_typedBranches hbranches) hmem
        exact (ihbranches branch hbranch).2 typed.2 hform.result
      · rintro typed rfl
        obtain ⟨e, he, hform⟩ := exists_of_typedOtherwise hotherwise
        exact ihotherwise e he typed hform
  | call name arguments ih =>
    intro t h
    rw [typed_call] at h
    obtain ⟨typedArguments, harguments, h⟩ := bind_eq_ok_iff.1 h
    refine TypedExpr.sound_ofCall hfunctions ?_ h
    intro typed hmem
    obtain ⟨e, he, hform⟩ := exists_mem_of_forall₂ (forall₂_of_typedAll harguments) hmem
    exact ih e he typed hform

/-- Type soundness: over the built-in functions, which keep their types, and any further
functions that do, an expression that compiles with a type evaluates on every row that
fits the schema to an error or to a value that is null or of that type. -/
theorem evaluate_fits_dataType {schema : Schema} {further : List ScalarFunction}
    (hfurther : ∀ f ∈ further, f.KeepsTypes) {e : Expr} {compiled : CompiledExpr}
    (hcompiled : e.compile schema (further.foldl Registry.register Registry.builtins) =
      .ok compiled) :
    (∀ f ∈ Builtin.all, f.KeepsTypes ∧ f.FailsByOverflow) ∧
      ∀ row : Row, row.Fits schema → ∀ v, compiled.evaluate row = .ok v →
        v = .null ∨ v.dataType = compiled.dataType := by
  refine ⟨fun f hf =>
    ⟨Builtin.keepsTypes_of_mem_all hf, Builtin.failsByOverflow_of_mem_all hf⟩, ?_⟩
  obtain ⟨t, ht, rfl⟩ := compile_eq_ok_iff.1 hcompiled
  have hfunctions : (further.foldl Registry.register Registry.builtins).KeepsTypes :=
    Registry.keepsTypes_registerAll Registry.keepsTypes_builtins hfurther
  exact sound_typed hfunctions e t ht

/-- A function that doubles a 32-bit integer into a 64-bit one. -/
def doubling : ScalarFunction where
  name := "doubling"
  returnType types := if types = [.int32] then .ok .int64 else .error (.reported .typeResolution "")
  invoke arguments :=
    match arguments with
    | [.int32 n] => .ok (.int64 (Int64.ofInt (2 * n.toInt)))
    | _ => .ok .null

/-- The doubling function keeps its types. -/
theorem keepsTypes_doubling : doubling.KeepsTypes := by
  intro types type arguments htype _ v hv
  simp only [doubling] at htype hv
  split at htype
  · obtain rfl := Except.ok.inj htype
    split at hv
    · exact Except.ok.inj hv ▸ Or.inr rfl
    · exact Except.ok.inj hv ▸ Value.null_fits _
  · cases htype

/-- The doubled first column where it is above one, otherwise the length of the second. -/
def doubledOrLength : Expr :=
  .case
    [(.compare .gt (.column ⟨none, "A"⟩) (.literal (.int64 1)),
      .call "DOUBLING" [.column ⟨none, "A"⟩])]
    (some (.call "LEN" [.column ⟨some "O", "S"⟩]))

/-- Its branches meet on 64-bit integers, and so is its value on a row without a number. -/
theorem evaluate_fits_dataType_doubledOrLength :
    ∃ compiled, doubledOrLength.compile ⟨[⟨"A", .int32⟩, ⟨"S", .utf8⟩]⟩
        ([doubling].foldl Registry.register Registry.builtins) = .ok compiled ∧
      compiled.dataType = .int64 ∧
      compiled.evaluate ⟨[.null, .utf8 "four"]⟩ = .ok (.int64 4) ∧
      (Value.int64 4 = .null ∨ (Value.int64 4).dataType = compiled.dataType) := by
  have hfurther : ∀ f ∈ [doubling], f.KeepsTypes := by
    simpa using keepsTypes_doubling
  obtain ⟨compiled, hcompiled, htype, hvalue⟩ :
      ∃ compiled, doubledOrLength.compile ⟨[⟨"A", .int32⟩, ⟨"S", .utf8⟩]⟩
          ([doubling].foldl Registry.register Registry.builtins) = .ok compiled ∧
        compiled.dataType = .int64 ∧
        compiled.evaluate ⟨[.null, .utf8 "four"]⟩ = .ok (.int64 4) :=
    ⟨_, rfl, rfl, rfl⟩
  exact ⟨compiled, hcompiled, htype, hvalue,
    (evaluate_fits_dataType hfurther hcompiled).2 _ (by decide) _ hvalue⟩

end Expr

end StreamPlan
