import StreamPlan.Expr.Text

/-!
# Relabeled expressions

The names of functions and the literals are labels of an expression.  Replacing them leaves the
form of the expression as it is, and its text as far as the labels keep theirs.

Main results:

- `Expr.relabel`: the expression with its labels replaced.
- `Expr.relabelAll_eq_map`, `Expr.relabelBranches_eq_map`, `Expr.relabelOtherwise_eq_map`: lists
  of parts are relabeled one by one.
- `Expr.text_relabel`: labels that keep their texts keep the text.
-/

namespace StreamPlan

namespace Expr

mutual

/-- The expression with the names of its functions and its literals replaced. -/
def relabel (name : String → String) (label : Literal → Literal) : Expr → Expr
  | .column c => .column c
  | .literal v => .literal (label v)
  | .compare op l r => .compare op (l.relabel name label) (r.relabel name label)
  | .arith op l r => .arith op (l.relabel name label) (r.relabel name label)
  | .cast e target => .cast (e.relabel name label) target
  | .connect op l r => .connect op (l.relabel name label) (r.relabel name label)
  | .not e => .not (e.relabel name label)
  | .isNull e => .isNull (e.relabel name label)
  | .isNotNull e => .isNotNull (e.relabel name label)
  | .case branches otherwise =>
    .case (relabelBranches name label branches) (relabelOtherwise name label otherwise)
  | .call function arguments => .call (name function) (relabelAll name label arguments)

/-- A list of expressions, relabeled. -/
def relabelAll (name : String → String) (label : Literal → Literal) : List Expr → List Expr
  | [] => []
  | e :: rest => e.relabel name label :: relabelAll name label rest

/-- The branches of a case expression, relabeled. -/
def relabelBranches (name : String → String) (label : Literal → Literal) :
    List (Expr × Expr) → List (Expr × Expr)
  | [] => []
  | (cond, result) :: rest =>
    (cond.relabel name label, result.relabel name label) :: relabelBranches name label rest

/-- The alternative of a case expression, relabeled. -/
def relabelOtherwise (name : String → String) (label : Literal → Literal) :
    Option Expr → Option Expr
  | none => none
  | some e => some (e.relabel name label)

end

variable (name : String → String) (label : Literal → Literal)

/-- Lists are relabeled member by member. -/
theorem relabelAll_eq_map (es : List Expr) :
    relabelAll name label es = es.map (relabel name label) := by
  induction es with
  | nil => rfl
  | cons e rest ih => rw [relabelAll, ih, List.map_cons]

/-- Branches are relabeled one by one. -/
theorem relabelBranches_eq_map (branches : List (Expr × Expr)) :
    relabelBranches name label branches =
      branches.map fun branch => (branch.1.relabel name label, branch.2.relabel name label) := by
  induction branches with
  | nil => rfl
  | cons branch rest ih => rw [relabelBranches, ih, List.map_cons]

/-- An alternative is relabeled if there is one. -/
theorem relabelOtherwise_eq_map (otherwise : Option Expr) :
    relabelOtherwise name label otherwise = otherwise.map (relabel name label) := by
  cases otherwise <;> rfl

variable {name label}

/-- Branches whose parts keep their texts keep their text. -/
theorem branchesText_relabel {branches : List (Expr × Expr)}
    (h : ∀ branch ∈ branches, (branch.1.relabel name label).text = branch.1.text ∧
      (branch.2.relabel name label).text = branch.2.text) :
    branchesText (relabelBranches name label branches) = branchesText branches := by
  induction branches with
  | nil => rfl
  | cons branch rest ih =>
    obtain ⟨hcond, hresult⟩ := h branch List.mem_cons_self
    rw [relabelBranches, branchesText, branchesText, hcond, hresult,
      ih fun other hother => h other (List.mem_cons_of_mem _ hother)]

/-- Where names keep their capitals and literals their texts, expressions keep their texts. -/
theorem text_relabel (hname : ∀ s, Text.asciiUpper (name s) = Text.asciiUpper s)
    (hlabel : ∀ v, (label v).text = v.text) (e : Expr) : (e.relabel name label).text = e.text := by
  induction e using Expr.induct with
  | column c => rfl
  | literal v => exact hlabel v
  | compare op l r ihl ihr => rw [relabel, text, text, ihl, ihr]
  | arith op l r ihl ihr => rw [relabel, text, text, ihl, ihr]
  | cast e target ih => rw [relabel, text, text, ih]
  | connect op l r ihl ihr => rw [relabel, text, text, ihl, ihr]
  | not e ih => rw [relabel, text, text, ih]
  | isNull e ih => rw [relabel, text, text, ih]
  | isNotNull e ih => rw [relabel, text, text, ih]
  | case branches otherwise ihbranches ihotherwise =>
    have hotherwise :
        otherwiseText (relabelOtherwise name label otherwise) = otherwiseText otherwise := by
      cases otherwise with
      | none => rfl
      | some e => rw [relabelOtherwise, otherwiseText, otherwiseText, ihotherwise e rfl]
    rw [relabel, text, text, branchesText_relabel ihbranches, hotherwise]
  | call function arguments ih =>
    have htexts : texts (relabelAll name label arguments) = texts arguments := by
      rw [texts_eq_map, texts_eq_map, relabelAll_eq_map, List.map_map]
      exact List.map_congr_left ih
    rw [relabel, text, text, hname, htexts]

end Expr

end StreamPlan
