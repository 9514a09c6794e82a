import StreamPlan.Expr

/-!
# Parts of expressions

A part of an expression is the expression or a part of one of those it is made of.

Main results:

- `Expr.induct_children`: induction from the children to the expression.
- `Expr.Part`: the parts of an expression.
- `Expr.AllParts.mk`, `Expr.AllParts.self`, `Expr.AllParts.child`: what holds of all parts
  holds of the whole and of the parts of every child.
-/

namespace StreamPlan

namespace Expr

/-- The expressions that an expression is made of. -/
def children : Expr → List Expr
  | column _ => []
  | literal _ => []
  | compare _ l r => [l, r]
  | arith _ l r => [l, r]
  | cast e _ => [e]
  | connect _ l r => [l, r]
  | not e => [e]
  | isNull e => [e]
  | isNotNull e => [e]
  | case branches otherwise =>
    branches.flatMap (fun branch => [branch.1, branch.2]) ++ otherwise.toList
  | call _ arguments => arguments

/-- What passes from the children of an expression to the expression holds of all. -/
theorem induct_children {motive : Expr → Prop}
    (step : ∀ e : Expr, (∀ c ∈ e.children, motive c) → motive e) (e : Expr) : motive e := by
  induction e using Expr.induct with
  | column | literal => exact step _ nofun
  | compare op l r ihl ihr | arith op l r ihl ihr | connect op l r ihl ihr =>
    exact step _ (by simp [children, ihl, ihr])
  | cast e target ih => exact step _ (by simpa [children] using ih)
  | not e ih | isNull e ih | isNotNull e ih => exact step _ (by simpa [children] using ih)
  | case branches otherwise ihbranches ihotherwise =>
    refine step _ fun c hc => ?_
    rcases List.mem_append.1 hc with hbranch | halternative
    · obtain ⟨branch, hmem, hc⟩ := List.mem_flatMap.1 hbranch
      obtain ⟨hcond, hresult⟩ := ihbranches branch hmem
      simp only [List.mem_cons, List.not_mem_nil, or_false] at hc
      rcases hc with rfl | rfl
      · exact hcond
      · exact hresult
    · exact ihotherwise c (Option.mem_toList.1 halternative)
  | call name arguments ih => exact step _ ih

/-- The parts of an expression. -/
inductive Part (part : Expr) : Expr → Prop
  | self : Part part part
  | child {e c : Expr} (h : c ∈ e.children) (inner : Part part c) : Part part e

/-- All parts of an expression have a property. -/
def AllParts (P : Expr → Prop) (e : Expr) : Prop := ∀ part : Expr, part.Part e → P part

variable {P : Expr → Prop} {e : Expr}

/-- What holds of the whole and of all parts of its children holds of all parts. -/
theorem AllParts.mk (h : P e) (hchildren : ∀ c ∈ e.children, c.AllParts P) : e.AllParts P := by
  intro part hpart
  cases hpart with
  | self => exact h
  | child hc inner => exact hchildren _ hc part inner

/-- What holds of all parts holds of the whole. -/
theorem AllParts.self (h : e.AllParts P) : P e := h e .self

/-- What holds of all parts holds of all parts of a child. -/
theorem AllParts.child (h : e.AllParts P) {c : Expr} (hc : c ∈ e.children) : c.AllParts P :=
  fun part hpart => h part (.child hc hpart)

/-- The condition and the result of a branch are children of a case expression. -/
theorem mem_children_of_branch {branches : List (Expr × Expr)} {otherwise : Option Expr}
    {branch : Expr × Expr} (h : branch ∈ branches) :
    branch.1 ∈ (case branches otherwise).children ∧
      branch.2 ∈ (case branches otherwise).children := by
  constructor
  · exact List.mem_append_left _ (List.mem_flatMap.2 ⟨branch, h, List.mem_cons_self⟩)
  · exact List.mem_append_left _
      (List.mem_flatMap.2 ⟨branch, h, List.mem_cons_of_mem _ List.mem_cons_self⟩)

/-- The alternative is a child of a case expression. -/
theorem mem_children_of_otherwise {branches : List (Expr × Expr)} {e : Expr} :
    e ∈ (case branches (some e)).children :=
  List.mem_append_right _ (List.mem_singleton_self e)

end Expr

end StreamPlan
