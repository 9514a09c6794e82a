import StreamPlan.Proofs.Expr.LogicLaws
import StreamPlan.Proofs.Expr.Relabeling
import StreamPlan.Proofs.Function.History

/-!
# The case of function names

Expressions that differ in nothing but the case of the names of functions find the same
functions.  They have one typed form or fail alike, and they are shown as one text.

Main results:

- `Expr.SameUpToCase`: expressions that differ in the case of function names only.
- `Error.caseless`: what remains of an error when the case of its words does not count.
- `Registry.caseless_resolve`: resolving names that have the same capitals.
- `Expr.caseless_typed_relabel`: typing an expression whose function names keep their capitals.
- `Expr.SameUpToCase.alike_compile`: what such expressions compile to.
- `Registry.CaseBlind`, `Registry.caseBlind`: registries and expressions without regard to case.
-/

namespace StreamPlan

/-- Two expressions differ in nothing but the case of the names of their functions. -/
def Expr.SameUpToCase (a b : Expr) : Prop :=
  a.relabel Text.asciiLower id = b.relabel Text.asciiLower id

/-- The kind and the wording of an error, without regard to case. -/
def Error.caseless (e : Error) : ErrorKind × String := (e.kind, Text.asciiUpper e.message)

/-! ## Names of functions -/

/-- That no function has a name is reported with the name, in the case it is written in. -/
theorem Error.caseless_unknownFunction {name other : String}
    (h : Text.asciiUpper name = Text.asciiUpper other) :
    (typing (.unknownFunction name)).caseless = (typing (.unknownFunction other)).caseless := by
  have hmessage (s : String) :
      (typing (.unknownFunction s)).message = "unknown function '" ++ s ++ "'" := rfl
  rw [caseless, caseless, hmessage, hmessage, Text.asciiUpper_append, Text.asciiUpper_append,
    Text.asciiUpper_append, Text.asciiUpper_append, h]
  rfl

/-- Names with the same capitals resolve to the same function and type, or fail alike. -/
theorem Registry.caseless_resolve {name other : String}
    (h : Text.asciiUpper name = Text.asciiUpper other) (functions : Registry)
    (types : List DataType) :
    (functions.resolve name types).mapError Error.caseless =
      (functions.resolve other types).mapError Error.caseless := by
  unfold resolve
  rw [find?_of_asciiUpper_eq h, h]
  cases functions.find? other with
  | none => exact congrArg Except.error (Error.caseless_unknownFunction h)
  | some function => rfl

/-! ## Typing -/

/-- That an expression is not boolean is reported with its text. -/
theorem TypedExpr.caseless_requireBoolean {source other : Expr} (h : source.text = other.text)
    (place : BooleanPlace) (e : TypedExpr) :
    (e.requireBoolean place source).mapError Error.caseless =
      (e.requireBoolean place other).mapError Error.caseless := by
  have hmessage (s : Expr) : (Error.typing (.notBoolean place e.dataType s)).message =
      place.text ++ " requires boolean operands, got " ++ e.dataType.text ++ " for " ++ s.text :=
    rfl
  unfold requireBoolean
  split
  · rfl
  · split
    · rfl
    · apply congrArg Except.error
      rw [Error.caseless, Error.caseless, hmessage, hmessage, h]
      rfl

/-- Names with the same capitals are called alike. -/
theorem TypedExpr.caseless_ofCall {name other : String}
    (h : Text.asciiUpper name = Text.asciiUpper other) (functions : Registry)
    (arguments : List TypedExpr) :
    (ofCall functions name arguments).mapError Error.caseless =
      (ofCall functions other arguments).mapError Error.caseless := by
  rw [ofCall, ofCall, mapError_bind, mapError_bind, Registry.caseless_resolve h]

namespace Expr

variable {schema : Schema} {functions : Registry} {name : String → String}

/-- Where the names of functions keep their capitals, an expression stands for a boolean as it
does. -/
theorem caseless_requireBoolean_relabel
    (hname : ∀ s, Text.asciiUpper (name s) = Text.asciiUpper s) (place : BooleanPlace)
    (source : Expr) (e : TypedExpr) :
    (e.requireBoolean place (source.relabel name id)).mapError Error.caseless =
      (e.requireBoolean place source).mapError Error.caseless :=
  TypedExpr.caseless_requireBoolean (text_relabel hname (fun _ => rfl) source) place e

/-- Lists are typed alike when their members are. -/
theorem caseless_typedAll {es : List Expr}
    (h : ∀ e ∈ es, ((e.relabel name id).typed schema functions).mapError Error.caseless =
      (e.typed schema functions).mapError Error.caseless) :
    (typedAll schema functions (relabelAll name id es)).mapError Error.caseless =
      (typedAll schema functions es).mapError Error.caseless := by
  induction es with
  | nil => rfl
  | cons e rest ih =>
    have hrest := ih fun other hother => h other (List.mem_cons_of_mem _ hother)
    simp only [relabelAll, typedAll_cons, mapError_bind, h e List.mem_cons_self, hrest]

/-- Branches are typed alike when their parts are. -/
theorem caseless_typedBranches (hname : ∀ s, Text.asciiUpper (name s) = Text.asciiUpper s)
    {branches : List (Expr × Expr)}
    (h : ∀ branch ∈ branches,
      ((branch.1.relabel name id).typed schema functions).mapError Error.caseless =
          (branch.1.typed schema functions).mapError Error.caseless ∧
        ((branch.2.relabel name id).typed schema functions).mapError Error.caseless =
          (branch.2.typed schema functions).mapError Error.caseless) :
    (typedBranches schema functions (relabelBranches name id branches)).mapError Error.caseless =
      (typedBranches schema functions branches).mapError Error.caseless := by
  induction branches with
  | nil => rfl
  | cons branch rest ih =>
    obtain ⟨cond, result⟩ := branch
    obtain ⟨hcond, hresult⟩ := h (cond, result) List.mem_cons_self
    have hboolean := caseless_requireBoolean_relabel hname .condition cond
    have hrest := ih fun other hother => h other (List.mem_cons_of_mem _ hother)
    simp only [relabelBranches, typedBranches_cons, mapError_bind, hcond, hboolean, hresult, hrest]

/-- Alternatives are typed alike when their expressions are. -/
theorem caseless_typedOtherwise {otherwise : Option Expr}
    (h : ∀ e, otherwise = some e →
      ((e.relabel name id).typed schema functions).mapError Error.caseless =
        (e.typed schema functions).mapError Error.caseless) :
    (typedOtherwise schema functions (relabelOtherwise name id otherwise)).mapError
        Error.caseless =
      (typedOtherwise schema functions otherwise).mapError Error.caseless := by
  cases otherwise with
  | none => rfl
  | some e => simp only [relabelOtherwise, typedOtherwise_some, mapError_bind, h e rfl]

/-- Where the names of functions keep their capitals, an expression keeps its typed form, or fails
with an error that differs in case only. -/
theorem caseless_typed_relabel (hname : ∀ s, Text.asciiUpper (name s) = Text.asciiUpper s)
    (e : Expr) :
    ((e.relabel name id).typed schema functions).mapError Error.caseless =
      (e.typed schema functions).mapError Error.caseless := by
  have hboolean := @caseless_requireBoolean_relabel name hname
  induction e using Expr.induct with
  | column c => rfl
  | literal v => rfl
  | compare op l r ihl ihr => simp only [relabel, typed_compare, mapError_bind, ihl, ihr]
  | arith op l r ihl ihr => simp only [relabel, typed_arith, mapError_bind, ihl, ihr]
  | cast e target ih => simp only [relabel, typed_cast, mapError_bind, ih]
  | connect op l r ihl ihr =>
    simp only [relabel, typed_connect, mapError_bind, ihl, ihr, hboolean .connective]
  | not e ih => simp only [relabel, typed_not, mapError_bind, ih, hboolean .negation]
  | isNull e ih => simp only [relabel, typed_isNull, mapError_bind, ih]
  | isNotNull e ih => simp only [relabel, typed_isNotNull, mapError_bind, ih]
  | case branches otherwise ihbranches ihotherwise =>
    have hempty : (relabelBranches name id branches).isEmpty = branches.isEmpty := by
      rw [relabelBranches_eq_map, List.isEmpty_map]
    rw [relabel, typed_case, typed_case, hempty]
    split
    · rfl
    · simp only [mapError_bind, caseless_typedBranches hname ihbranches,
        caseless_typedOtherwise ihotherwise]
  | call function arguments ih =>
    have hcall := TypedExpr.caseless_ofCall (hname function) functions
    simp only [relabel, typed_call, mapError_bind, caseless_typedAll ih, hcall]

/-! ## Expressions that differ in the case of function names -/

variable {a b : Expr}

/-- Expressions that differ in the case of function names only have one text. -/
theorem SameUpToCase.text_eq (h : a.SameUpToCase b) : a.text = b.text := by
  have hlower := @text_relabel Text.asciiLower id Text.asciiUpper_asciiLower fun _ => rfl
  calc a.text = (a.relabel Text.asciiLower id).text := (hlower a).symm
    _ = (b.relabel Text.asciiLower id).text := congrArg text h
    _ = b.text := hlower b

/-- Expressions that differ in the case of function names only have one typed form, or fail with
errors that differ in case only. -/
theorem SameUpToCase.caseless_typed_eq (h : a.SameUpToCase b) (schema : Schema)
    (functions : Registry) :
    (a.typed schema functions).mapError Error.caseless =
      (b.typed schema functions).mapError Error.caseless := by
  have hlower := @caseless_typed_relabel schema functions _ Text.asciiUpper_asciiLower
  rw [← hlower a, h, hlower b]

/-- Expressions that differ in the case of function names only compile to one type and one value or
error on every row, or fail with errors that differ in case only. -/
theorem SameUpToCase.alike_compile (h : a.SameUpToCase b) (schema : Schema)
    (functions : Registry) :
    Alike CompiledExpr.SameOnRows ((a.compile schema functions).mapError Error.caseless)
      ((b.compile schema functions).mapError Error.caseless) := by
  rw [compile, compile, mapError_bind, mapError_bind, h.caseless_typed_eq]
  refine (Alike.refl _).bind ?_
  rintro typed _ rfl
  exact .ok ⟨rfl, fun _ => rfl⟩

end Expr

/-! ## Registries and expressions without regard to case -/

/-- The case of function names does not matter to a registry with a history of calls. -/
structure Registry.CaseBlind (history : List Call) (functions : Registry) : Prop where
  /-- A name finds the last function registered under it up to case, unless a later call removed
  the name up to case. -/
  lookup : ∀ name function,
    functions.find? name = some function ↔ Provides history name function
  /-- The names are in strictly increasing order. -/
  increasing : functions.names.Pairwise (· < ·)
  /-- They are the capitals of the names of the functions that are there. -/
  present : ∀ key, key ∈ functions.names ↔
    ∃ function, Provides history function.name function ∧ Text.asciiUpper function.name = key
  /-- Expressions that differ in the case of function names only compile, against any schema, to
  one type and one value or error on every row, or fail with errors of one kind. -/
  compiled : ∀ (schema : Schema) (a b : Expr), a.SameUpToCase b →
    Alike CompiledExpr.SameOnRows ((a.compile schema functions).mapError Error.kind)
      ((b.compile schema functions).mapError Error.kind)
  /-- They are shown as one text. -/
  shown : ∀ a b : Expr, a.SameUpToCase b → a.text = b.text

/-- The case of function names does not matter to the registries that calls lead to. -/
theorem Registry.caseBlind (origin : Origin) (calls : List Call) :
    CaseBlind (origin.history ++ calls) (origin.registry.run calls) where
  lookup := find?_origin_iff origin calls
  increasing := (kept_origin origin calls).names_increasing
  present key := by
    rw [(kept_origin origin calls).mem_names_iff]
    simp only [find?_origin_iff]
  compiled schema a b h := by
    have hkind : Error.kind = Prod.fst ∘ Error.caseless := rfl
    rw [hkind, ← mapError_mapError, ← mapError_mapError]
    exact (h.alike_compile schema _).mapError Prod.fst
  shown _ _ h := h.text_eq

end StreamPlan
