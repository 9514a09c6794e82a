import StreamPlan.Proofs.Expr.TypedForm
import StreamPlan.Proofs.Function.ReturnType

/-!
# Kinds of errors

What can go wrong with an expression goes wrong in one of two phases.  Typing it fails with type
resolution errors, as far as the functions do, and evaluating a typed expression fails with
execution errors, whatever the functions and the row.

Main results:

- `FailsAs`: computations that fail with errors of one kind.
- `Builtin.failsAs_returnType`: the argument types that built-in functions refuse.
- `Expr.failsAs_typed`: what typing fails with.
- `TypedExpr.failsAs_evaluate`: what evaluation fails with.
-/

namespace StreamPlan

/-- Whatever the computation fails with is of a kind. -/
abbrev FailsAs {α : Type} (kind : ErrorKind) (outcome : Except Error α) : Prop :=
  FailsWith (fun e => e.kind = kind) outcome

/-! ## Typing -/

/-- A reference that means no single column is a type resolution error. -/
theorem Schema.failsAs_resolve (schema : Schema) (column : ColumnRef) :
    FailsAs .typeResolution (schema.resolve column) := by
  unfold resolve
  split
  · exact failsWith_ok _
  · split
    · exact failsWith_ok _
    · exact failsWith_error rfl
    · exact failsWith_error rfl

/-- A literal that spells no time is a type resolution error. -/
theorem Literal.failsAs_toValue (v : Literal) :
    FailsAs .typeResolution v.toValue := by
  cases v with
  | time s =>
    rw [toValue]
    split
    · exact failsWith_ok _
    · exact failsWith_error rfl
  | int32 | int64 | float64 | utf8 | boolean | null => exact failsWith_ok _

/-- Sides that do not compare are a type resolution error. -/
theorem failsAs_comparisonType (op : CompareOp) (left right : DataType) :
    FailsAs .typeResolution (comparisonType op left right) := by
  unfold comparisonType
  split
  · exact failsWith_ok _
  · split
    · split
      · exact failsWith_error rfl
      · exact failsWith_ok _
    · split
      · exact failsWith_ok _
      · exact failsWith_error rfl

/-- Sides that are no numbers are a type resolution error. -/
theorem failsAs_arithmeticType (op : ArithOp) (left right : DataType) :
    FailsAs .typeResolution (arithmeticType op left right) := by
  unfold arithmeticType
  dsimp only
  split
  · exact failsWith_ok _
  · exact failsWith_error rfl

/-- Branches without a common type are a type resolution error. -/
theorem failsAs_commonTypeWith (found : DataType) (types : List DataType) :
    FailsAs .typeResolution (commonTypeWith found types) := by
  induction types generalizing found with
  | nil => exact failsWith_ok _
  | cons type rest ih =>
    rw [commonTypeWith]
    split
    · exact ih found
    · split
      · exact ih type
      · split
        · exact ih _
        · exact failsWith_error rfl

namespace TypedExpr

/-- An operand that is not boolean is a type resolution error. -/
theorem failsAs_requireBoolean (place : BooleanPlace) (source : Expr) (e : TypedExpr) :
    FailsAs .typeResolution (e.requireBoolean place source) := by
  unfold requireBoolean
  split
  · exact failsWith_ok _
  · split
    · exact failsWith_ok _
    · exact failsWith_error rfl

/-- An undefined cast is a type resolution error. -/
theorem failsAs_ofCast (e : TypedExpr) (target : DataType) :
    FailsAs .typeResolution (e.ofCast target) := by
  unfold ofCast
  split
  · exact failsWith_ok _
  · exact failsWith_error rfl

end TypedExpr

namespace Builtin

/-- A wrong number of arguments is a type resolution error. -/
theorem failsAs_requireArity (arity : Arity) (types : List DataType) :
    FailsAs .typeResolution (requireArity arity types) := by
  unfold requireArity
  split
  · exact failsWith_ok _
  · exact failsWith_error rfl

/-- A function of one string refuses types with type resolution errors. -/
theorem failsAs_ofString (result : DataType) (types : List DataType) :
    FailsAs .typeResolution (ofString result types) := by
  refine (failsAs_requireArity _ _).bind fun _ _ => ?_
  dsimp only
  split
  · exact failsWith_ok _
  · exact failsWith_error rfl

/-- A function of several strings refuses types with type resolution errors. -/
theorem failsAs_ofStrings (types : List DataType) :
    FailsAs .typeResolution (ofStrings types) := by
  refine (failsAs_requireArity _ _).bind fun _ _ => ?_
  split
  · exact failsWith_error rfl
  · exact failsWith_ok _

/-- A magnitude refuses types with type resolution errors. -/
theorem failsAs_ofMagnitude (types : List DataType) :
    FailsAs .typeResolution (ofMagnitude types) := by
  refine (failsAs_requireArity _ _).bind fun _ _ => ?_
  split
  · exact failsWith_ok _
  · split
    · exact failsWith_ok _
    · exact failsWith_error rfl

/-- Rounding refuses types with type resolution errors. -/
theorem failsAs_ofRounding (types : List DataType) :
    FailsAs .typeResolution (ofRounding types) := by
  refine (failsAs_requireArity _ _).bind fun _ _ => ?_
  dsimp only
  split
  · exact failsWith_ok _
  · exact failsWith_error rfl

/-- Cutting refuses types with type resolution errors. -/
theorem failsAs_ofCut (types : List DataType) :
    FailsAs .typeResolution (ofCut types) := by
  refine (failsAs_requireArity _ _).bind fun _ _ => ?_
  split
  · exact failsWith_ok _
  · exact failsWith_error rfl

/-- The built-in functions refuse argument types with type resolution errors. -/
theorem failsAs_returnType {f : ScalarFunction} (hf : f ∈ all) (types : List DataType) :
    FailsAs .typeResolution (f.returnType types) := by
  simp only [all, List.mem_cons, List.not_mem_nil, or_false] at hf
  rcases hf with rfl | rfl | rfl | rfl | rfl | rfl | rfl | rfl
  · exact failsAs_ofString _ types
  · exact failsAs_ofString _ types
  · exact failsAs_ofString _ types
  · exact failsAs_ofString _ types
  · exact failsAs_ofStrings types
  · exact failsAs_ofMagnitude types
  · exact failsAs_ofRounding types
  · exact failsAs_ofCut types

end Builtin

/-- Every function that a registry finds refuses argument types with errors of a kind. -/
def Registry.Refuses (kind : ErrorKind) (registry : Registry) : Prop :=
  ∀ name f, registry.find? name = some f →
    ∀ types, FailsAs kind (f.returnType types)

/-- A function that is not found, and types that a function refuses. -/
theorem Registry.Refuses.failsAs_resolve {registry : Registry}
    (h : registry.Refuses .typeResolution) (name : String) (types : List DataType) :
    FailsAs .typeResolution (registry.resolve name types) := by
  unfold resolve
  split
  · exact failsWith_error rfl
  · rename_i f hf
    split
    · exact failsWith_ok _
    · rename_i e he
      have hkind : e.kind = .typeResolution := h name f hf types e he
      rw [if_pos hkind]
      exact failsWith_error hkind

namespace Expr

variable {schema : Schema} {functions : Registry}

/-- If the typing of every member of a list fails with type resolution errors, then so does that
of the list. -/
theorem failsAs_typedAll {arguments : List Expr}
    (h : ∀ e ∈ arguments, FailsAs .typeResolution (e.typed schema functions)) :
    FailsAs .typeResolution (typedAll schema functions arguments) := by
  induction arguments with
  | nil => exact failsWith_ok _
  | cons e rest ih =>
    rw [typedAll_cons]
    refine (h e List.mem_cons_self).bind fun first _ => ?_
    exact (ih fun e he => h e (List.mem_cons_of_mem _ he)).bind fun _ _ => failsWith_ok _

/-- If the typing of every condition and result fails with type resolution errors, then so does
that of the branches. -/
theorem failsAs_typedBranches {branches : List (Expr × Expr)}
    (h : ∀ b ∈ branches, FailsAs .typeResolution (b.1.typed schema functions) ∧
      FailsAs .typeResolution (b.2.typed schema functions)) :
    FailsAs .typeResolution (typedBranches schema functions branches) := by
  induction branches with
  | nil => exact failsWith_ok _
  | cons branch rest ih =>
    obtain ⟨cond, result⟩ := branch
    obtain ⟨hcond, hresult⟩ := h (cond, result) List.mem_cons_self
    rw [typedBranches_cons]
    refine hcond.bind fun t _ => (t.failsAs_requireBoolean _ _).bind fun first _ => ?_
    refine hresult.bind fun second _ => ?_
    exact (ih fun b hb => h b (List.mem_cons_of_mem _ hb)).bind fun _ _ => failsWith_ok _

/-- If the typing of an expression fails with type resolution errors, then so does that of an
alternative. -/
theorem failsAs_typedOtherwise {otherwise : Option Expr}
    (h : ∀ e, otherwise = some e → FailsAs .typeResolution (e.typed schema functions)) :
    FailsAs .typeResolution (typedOtherwise schema functions otherwise) := by
  cases otherwise with
  | none => exact failsWith_ok _
  | some e =>
    rw [typedOtherwise_some]
    exact (h e rfl).bind fun _ _ => failsWith_ok _

/-- Typing fails with type resolution errors, if the functions refuse types with them. -/
theorem failsAs_typed (hfunctions : functions.Refuses .typeResolution) (e : Expr) :
    FailsAs .typeResolution (e.typed schema functions) := by
  induction e using Expr.induct with
  | column c =>
    rw [typed_column]
    exact (schema.failsAs_resolve c).bind fun _ _ => failsWith_ok _
  | literal v =>
    rw [typed_literal]
    exact v.failsAs_toValue.bind fun _ _ => failsWith_ok _
  | compare op l r ihl ihr =>
    rw [typed_compare]
    refine ihl.bind fun left _ => ihr.bind fun right _ => ?_
    exact (failsAs_comparisonType op _ _).bind fun _ _ => failsWith_ok _
  | arith op l r ihl ihr =>
    rw [typed_arith]
    refine ihl.bind fun left _ => ihr.bind fun right _ => ?_
    exact (failsAs_arithmeticType op _ _).bind fun _ _ => failsWith_ok _
  | cast e target ih =>
    rw [typed_cast]
    exact ih.bind fun inner _ => inner.failsAs_ofCast target
  | connect op l r ihl ihr =>
    rw [typed_connect]
    refine ihl.bind fun left _ => (left.failsAs_requireBoolean _ _).bind fun left _ => ?_
    refine ihr.bind fun right _ => (right.failsAs_requireBoolean _ _).bind fun right _ => ?_
    exact failsWith_ok _
  | not e ih =>
    rw [typed_not]
    refine ih.bind fun inner _ => (inner.failsAs_requireBoolean _ _).bind fun inner _ => ?_
    exact failsWith_ok _
  | isNull e ih =>
    rw [typed_isNull]
    exact ih.bind fun _ _ => failsWith_ok _
  | isNotNull e ih =>
    rw [typed_isNotNull]
    exact ih.bind fun _ _ => failsWith_ok _
  | case branches otherwise ihbranches ihotherwise =>
    rw [typed_case]
    split
    · exact failsWith_error rfl
    · refine (failsAs_typedBranches ihbranches).bind fun typed _ => ?_
      refine (failsAs_typedOtherwise ihotherwise).bind fun alternative _ => ?_
      exact (failsAs_commonTypeWith _ _).bind fun _ _ => failsWith_ok _
  | call name arguments ih =>
    rw [typed_call]
    refine (failsAs_typedAll ih).bind fun typed _ => ?_
    exact (hfunctions.failsAs_resolve name _).bind fun _ _ => failsWith_ok _

end Expr

/-! ## Evaluation -/

/-- A cast that is not possible is an execution error. -/
theorem Value.failsAs_cast (v : Value) (target : DataType) :
    FailsAs .execution (v.cast target) := by
  unfold cast
  split
  · exact failsWith_ok _
  · split
    · exact failsWith_ok _
    · exact failsWith_error rfl

/-- A result that does not fit 64 bits is an execution error. -/
theorem failsAs_narrow64 (n : Int) : FailsAs .execution (narrow64 n) := by
  unfold narrow64
  split
  · exact failsWith_ok _
  · exact failsWith_error rfl

/-- A result that does not fit 32 bits is an execution error. -/
theorem failsAs_narrow32 (n : Int) : FailsAs .execution (narrow32 n) := by
  unfold narrow32
  split
  · exact failsWith_ok _
  · exact failsWith_error rfl

/-- A divisor of zero is an execution error. -/
theorem failsAs_requireDivisor (n : Int) :
    FailsAs .execution (requireDivisor n) := by
  unfold requireDivisor
  split
  · exact failsWith_error rfl
  · exact failsWith_ok _

namespace ArithOp

/-- Arithmetic on 64-bit integers fails with execution errors. -/
theorem failsAs_onInt64 (op : ArithOp) (a b : Int) :
    FailsAs .execution (op.onInt64 a b) := by
  cases op with
  | plus | minus | times => exact failsAs_narrow64 _
  | divide => exact (failsAs_requireDivisor b).bind fun _ _ => failsAs_narrow64 _
  | modulo =>
    exact (failsAs_requireDivisor b).bind fun _ _ =>
      (failsAs_narrow64 _).bind fun _ _ => failsAs_narrow64 _

/-- Arithmetic fails with execution errors. -/
theorem failsAs_onValues (op : ArithOp) (a b : Value) :
    FailsAs .execution (op.onValues a b) := by
  unfold onValues
  split
  · exact ((op.failsAs_onInt64 _ _).bind fun _ _ => failsAs_narrow32 _).map _
  · exact (op.failsAs_onInt64 _ _).map _
  · exact failsWith_ok _
  · exact failsWith_ok _

end ArithOp

namespace TypedExpr

mutual

/-- Evaluation fails with execution errors, on every row and over all functions: whatever a
function fails with is reported as one. -/
theorem failsAs_evaluate (row : Row) :
    (e : TypedExpr) → FailsAs .execution (e.evaluate row)
  | .column i type => failsWith_ok _
  | .literal v => failsWith_ok _
  | .cast e target => by
    rw [evaluate_cast]
    exact (failsAs_evaluate row e).bind fun v _ => v.failsAs_cast target
  | .not e => by
    rw [evaluate_not]
    exact (failsAs_evaluate row e).bind fun _ _ => failsWith_ok _
  | .connect op l r => by
    rw [evaluate_connect]
    refine (failsAs_evaluate row l).bind fun left _ => ?_
    split
    · exact failsWith_ok _
    · exact (failsAs_evaluate row r).bind fun _ _ => failsWith_ok _
  | .isNull e negated => by
    rw [evaluate_isNull]
    exact (failsAs_evaluate row e).bind fun _ _ => failsWith_ok _
  | .case branches otherwise type => by
    rw [evaluate_case]
    refine (failsAs_firstBranch row branches).bind fun taken _ => ?_
    split
    · exact failsWith_ok _
    · exact failsAs_evaluateOtherwise row otherwise
  | .compare op l r => by
    rw [evaluate_compare]
    exact (failsAs_evaluate row l).bind fun _ _ =>
      (failsAs_evaluate row r).bind fun _ _ => failsWith_ok _
  | .arith op l r type => by
    rw [evaluate_arith]
    exact (failsAs_evaluate row l).bind fun a _ =>
      (failsAs_evaluate row r).bind fun b _ => op.failsAs_onValues a b
  | .apply function arguments type => by
    rw [evaluate_apply]
    exact (failsAs_evaluateAll row arguments).bind fun _ _ =>
      failsWith_mapError fun _ _ => rfl

/-- So does the evaluation of a list. -/
theorem failsAs_evaluateAll (row : Row) :
    (es : List TypedExpr) → FailsAs .execution (evaluateAll row es)
  | [] => failsWith_ok _
  | e :: rest => by
    rw [evaluateAll_cons]
    exact (failsAs_evaluate row e).bind fun _ _ =>
      (failsAs_evaluateAll row rest).bind fun _ _ => failsWith_ok _

/-- So does the search for a branch. -/
theorem failsAs_firstBranch (row : Row) :
    (branches : List (TypedExpr × TypedExpr)) →
      FailsAs .execution (firstBranch row branches)
  | [] => failsWith_ok _
  | (cond, result) :: rest => by
    rw [firstBranch_cons]
    refine (failsAs_evaluate row cond).bind fun v _ => ?_
    split
    · exact (failsAs_evaluate row result).bind fun _ _ => failsWith_ok _
    · exact failsAs_firstBranch row rest

/-- So does the evaluation of an alternative. -/
theorem failsAs_evaluateOtherwise (row : Row) :
    (otherwise : Option TypedExpr) →
      FailsAs .execution (evaluateOtherwise row otherwise)
  | none => failsWith_ok _
  | some e => failsAs_evaluate row e

end

end TypedExpr

end StreamPlan
