import Mathlib.Data.List.Forall2
import StreamPlan.Expr.Typed
import StreamPlan.Proofs.Outcome

/-!
# Typed forms of the parts of an expression

An expression has a typed form only if its parts have.  For lists of parts the forms
stand in the order of the parts.

Main results:

- `Expr.forall₂_of_typedAll`, `Expr.forall₂_of_typedBranches`: the forms of a list.
- `Expr.exists_of_typedOtherwise`: the form of an alternative.
- `Expr.forall₂_of_compileAll`: what the members of a list are compiled to.
- `Expr.compile_column_eq_ok_iff`: a bare reference is compiled to a position.
-/

namespace StreamPlan

/-- Every member of a list is related to one of the list it is related to. -/
theorem exists_mem_of_forall₂ {α β : Type} {R : α → β → Prop} {xs : List α} {ys : List β}
    (h : List.Forall₂ R xs ys) {y : β} (hy : y ∈ ys) : ∃ x ∈ xs, R x y := by
  induction h with
  | nil => cases hy
  | cons hxy _ ih =>
    rcases List.mem_cons.1 hy with rfl | hy
    · exact ⟨_, List.mem_cons_self, hxy⟩
    · obtain ⟨x, hx, hR⟩ := ih hy
      exact ⟨x, List.mem_cons_of_mem _ hx, hR⟩

/-- What holds of everything that is related to something holds of the members of a list that is
related to another. -/
theorem forall_left_of_forall₂ {α β : Type} {R : α → β → Prop} {P : α → Prop} {xs : List α}
    {ys : List β} (h : List.Forall₂ R xs ys) (hP : ∀ x y, R x y → P x) : ∀ x ∈ xs, P x :=
  ((List.forall₂_and_left xs ys).1 (h.imp fun x y hxy => ⟨hP x y hxy, hxy⟩)).1

namespace Expr

variable {schema : Schema} {functions : Registry}

/-- The typed forms of a list are those of its members. -/
theorem forall₂_of_typedAll {es : List Expr} {ts : List TypedExpr}
    (h : typedAll schema functions es = .ok ts) :
    List.Forall₂ (fun e t => e.typed schema functions = .ok t) es ts := by
  induction es generalizing ts with
  | nil =>
    rw [typedAll_nil] at h
    exact Except.ok.inj h ▸ List.Forall₂.nil
  | cons e rest ih =>
    rw [typedAll_cons] at h
    obtain ⟨first, hfirst, h⟩ := bind_eq_ok_iff.1 h
    obtain ⟨others, hothers, heq⟩ := bind_eq_ok_iff.1 h
    exact Except.ok.inj heq ▸ List.Forall₂.cons hfirst (ih hothers)

/-- The typed form of a branch: its condition as a boolean, and its result. -/
structure TypedBranch (schema : Schema) (functions : Registry) (branch : Expr × Expr)
    (typed : TypedExpr × TypedExpr) : Prop where
  condition : ∃ t, branch.1.typed schema functions = .ok t ∧
    t.requireBoolean .condition branch.1 = .ok typed.1
  result : branch.2.typed schema functions = .ok typed.2

/-- The typed forms of branches are those of their conditions and results. -/
theorem forall₂_of_typedBranches {branches : List (Expr × Expr)}
    {ts : List (TypedExpr × TypedExpr)} (h : typedBranches schema functions branches = .ok ts) :
    List.Forall₂ (TypedBranch schema functions) branches ts := by
  induction branches generalizing ts with
  | nil =>
    rw [typedBranches_nil] at h
    exact Except.ok.inj h ▸ List.Forall₂.nil
  | cons branch rest ih =>
    obtain ⟨cond, result⟩ := branch
    rw [typedBranches_cons] at h
    obtain ⟨t, ht, h⟩ := bind_eq_ok_iff.1 h
    obtain ⟨first, hfirst, h⟩ := bind_eq_ok_iff.1 h
    obtain ⟨second, hsecond, h⟩ := bind_eq_ok_iff.1 h
    obtain ⟨others, hothers, heq⟩ := bind_eq_ok_iff.1 h
    exact Except.ok.inj heq ▸ List.Forall₂.cons ⟨⟨t, ht, hfirst⟩, hsecond⟩ (ih hothers)

/-- Branches whose conditions and results have typed forms have them together. -/
theorem typedBranches_eq_ok_iff {branches : List (Expr × Expr)}
    {ts : List (TypedExpr × TypedExpr)} :
    typedBranches schema functions branches = .ok ts ↔
      List.Forall₂ (TypedBranch schema functions) branches ts := by
  refine ⟨forall₂_of_typedBranches, fun h => ?_⟩
  induction h with
  | nil => rfl
  | @cons branch typed rest others hbranch _ ih =>
    obtain ⟨cond, result⟩ := branch
    obtain ⟨t, ht, hfirst⟩ := hbranch.condition
    rw [typedBranches_cons]
    refine bind_eq_ok_iff.2 ⟨t, ht, bind_eq_ok_iff.2 ⟨typed.1, hfirst, ?_⟩⟩
    refine bind_eq_ok_iff.2 ⟨typed.2, hbranch.result, bind_eq_ok_iff.2 ⟨others, ih, rfl⟩⟩

/-- The typed form of an alternative is that of its expression. -/
theorem exists_of_typedOtherwise {otherwise : Option Expr} {t : TypedExpr}
    (h : typedOtherwise schema functions otherwise = .ok (some t)) :
    ∃ e, otherwise = some e ∧ e.typed schema functions = .ok t := by
  cases otherwise with
  | none =>
    rw [typedOtherwise_none] at h
    cases Except.ok.inj h
  | some e =>
    rw [typedOtherwise_some] at h
    obtain ⟨typed, htyped, heq⟩ := bind_eq_ok_iff.1 h
    exact ⟨e, rfl, Option.some.inj (Except.ok.inj heq) ▸ htyped⟩

/-- A compiled expression holds the typed form of its source. -/
theorem compile_eq_ok_iff {e : Expr} {compiled : CompiledExpr} :
    e.compile schema functions = .ok compiled ↔
      ∃ t, e.typed schema functions = .ok t ∧ compiled = ⟨e, schema, t⟩ := by
  unfold compile
  rw [bind_eq_ok_iff]
  constructor
  · rintro ⟨t, ht, heq⟩
    exact ⟨t, ht, (Except.ok.inj heq).symm⟩
  · rintro ⟨t, ht, rfl⟩
    exact ⟨t, ht, rfl⟩

/-- A list is compiled to what its members are compiled to. -/
theorem forall₂_of_compileAll {context : String} {es : List Expr} {compiled : List CompiledExpr}
    (h : compileAll context schema functions es = .ok compiled) :
    List.Forall₂ (fun e c => e.compile schema functions = .ok c) es compiled := by
  induction es generalizing compiled with
  | nil =>
    rw [compileAll] at h
    exact Except.ok.inj h ▸ List.Forall₂.nil
  | cons e rest ih =>
    rw [compileAll] at h
    obtain ⟨first, hfirst, h⟩ := bind_eq_ok_iff.1 h
    obtain ⟨others, hothers, heq⟩ := bind_eq_ok_iff.1 h
    rw [compileIn, mapError_eq_ok_iff] at hfirst
    exact Except.ok.inj heq ▸ List.Forall₂.cons hfirst (ih hothers)

/-- A single expression that compiles is a list that compiles. -/
theorem compileAll_singleton {context : String} {e : Expr} {compiled : CompiledExpr}
    (h : e.compile schema functions = .ok compiled) :
    compileAll context schema functions [e] = .ok [compiled] := by
  rw [compileAll, compileIn, h]
  rfl

/-- A bare reference is compiled to the position and type of the column it resolves to. -/
theorem compile_column_eq_ok_iff {column : ColumnRef} {compiled : CompiledExpr} :
    (Expr.column column).compile schema functions = .ok compiled ↔
      ∃ i, schema.resolve column = .ok i ∧
        compiled = ⟨.column column, schema, .column i (schema.typeAt i)⟩ := by
  rw [compile_eq_ok_iff]
  constructor
  · rintro ⟨t, ht, rfl⟩
    rw [typed_column] at ht
    obtain ⟨i, hi, heq⟩ := bind_eq_ok_iff.1 ht
    exact ⟨i, hi, Except.ok.inj heq ▸ rfl⟩
  · rintro ⟨i, hi, rfl⟩
    refine ⟨_, ?_, rfl⟩
    rw [typed_column, hi]
    rfl

/-- A bare reference is the expression of a column. -/
theorem asColumn?_eq_some_iff {e : Expr} {column : ColumnRef} :
    e.asColumn? = some column ↔ e = .column column := by
  cases e <;> simp [asColumn?]

end Expr

end StreamPlan
