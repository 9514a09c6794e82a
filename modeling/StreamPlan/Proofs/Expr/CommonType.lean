import Mathlib.Data.List.Perm.Basic
import StreamPlan.Proofs.Expr.MeetingType
import StreamPlan.Proofs.Expr.TypedForm

/-!
# Common types

The results of a case expression are cast to one type.  It is found in a single pass over their
types that keeps the wider of two, and refuses two of which none is the wider.  What the pass ends
with is the widest of all the types, so it does not depend on their order, and it is the least type
to which all of them widen.

Main results:

- `DataType.IsWidest`: the widest type of a list.
- `commonType_eq_ok_iff`: the common type is the widest one.
- `exists_commonType_iff`: there is a common type where there is an upper bound.
- `commonType_widens`, `commonType_perm`: all types widen to it, in whatever order they stand.
- `meetOnWidest`: all there is to say of the common type of a list.
- `Expr.dataType_case_perm`: the order of the branches of a case expression.
-/

namespace StreamPlan

namespace DataType

variable {a b type other bound : DataType} {types others : List DataType}

/-! ## The widest type of a list -/

/-- The type is one of the list, and all types of the list widen to it. -/
structure IsWidest (types : List DataType) (type : DataType) : Prop where
  mem : type ∈ types
  widens : ∀ t ∈ types, t.WidensTo type

/-- Of a list only its members matter. -/
theorem isWidest_congr (h : ∀ t, t ∈ types ↔ t ∈ others) :
    IsWidest types type ↔ IsWidest others type := by
  constructor
  · rintro ⟨hmem, hwidens⟩
    exact ⟨(h type).1 hmem, fun t ht => hwidens t ((h t).2 ht)⟩
  · rintro ⟨hmem, hwidens⟩
    exact ⟨(h type).2 hmem, fun t ht => hwidens t ((h t).1 ht)⟩

/-- The first two types of a list can be exchanged. -/
theorem isWidest_swap : IsWidest (a :: b :: types) type ↔ IsWidest (b :: a :: types) type :=
  isWidest_congr fun _ => (List.Perm.swap b a types).mem_iff

/-- A type that widens to one behind it can be left out. -/
theorem isWidest_cons_iff (hb : b ∈ types) (hab : a.WidensTo b) :
    IsWidest (a :: types) type ↔ IsWidest types type := by
  constructor
  · rintro ⟨hmem, hwidens⟩
    refine ⟨?_, fun t ht => hwidens t (List.mem_cons_of_mem a ht)⟩
    rcases List.mem_cons.1 hmem with rfl | hmem
    · exact hab.antisymm (hwidens b (List.mem_cons_of_mem _ hb)) ▸ hb
    · exact hmem
  · rintro ⟨hmem, hwidens⟩
    refine ⟨List.mem_cons_of_mem a hmem, List.forall_mem_cons.2 ⟨?_, hwidens⟩⟩
    exact hab.trans (hwidens b hb)

/-- A list that is not empty and has an upper bound has a widest type. -/
theorem exists_isWidest (h : ∀ t ∈ a :: types, t.WidensTo bound) :
    ∃ type, IsWidest (a :: types) type := by
  induction types generalizing a with
  | nil => exact ⟨a, List.mem_cons_self, List.forall_mem_singleton.2 (.refl a)⟩
  | cons next rest ih =>
    obtain ⟨ha, hrest⟩ := List.forall_mem_cons.1 h
    obtain ⟨hnext, hrest⟩ := List.forall_mem_cons.1 hrest
    rcases ha.total_of_bounded hnext with hwider | hwider
    · obtain ⟨type, htype⟩ := ih (List.forall_mem_cons.2 ⟨hnext, hrest⟩)
      exact ⟨type, (isWidest_cons_iff List.mem_cons_self hwider).2 htype⟩
    · obtain ⟨type, htype⟩ := ih (List.forall_mem_cons.2 ⟨ha, hrest⟩)
      exact ⟨type, isWidest_swap.1 ((isWidest_cons_iff List.mem_cons_self hwider).2 htype)⟩

/-! ## Upper bounds -/

/-- Every numeric type widens to that of doubles. -/
theorem widensTo_float64 (h : a.isNumeric = true) : a.WidensTo .float64 := by
  obtain ⟨r, hr⟩ := Option.isSome_iff_exists.1 h
  have hle : r ≤ 3 := by
    rcases numericRank?_eq_some_iff.1 hr with ⟨-, rfl⟩ | ⟨-, rfl⟩ | ⟨-, rfl⟩ <;> decide
  exact Or.inr (Or.inr ⟨r, 3, hr, rfl, hle⟩)

/-- Types have an upper bound when, apart from null, they are all one type or all numeric. -/
theorem exists_bound_iff :
    (∃ bound, ∀ t ∈ types, t.WidensTo bound) ↔
      (∃ single, ∀ t ∈ types, t = .null ∨ t = single) ∨
        ∀ t ∈ types, t = .null ∨ t.isNumeric = true := by
  constructor
  · rintro ⟨bound, h⟩
    by_cases hnumeric : bound.isNumeric = true
    · refine Or.inr fun t ht => ?_
      rcases h t ht with hnull | rfl | ⟨r, -, hr, -, -⟩
      · exact Or.inl hnull
      · exact Or.inr hnumeric
      · exact Or.inr (Option.isSome_iff_exists.2 ⟨r, hr⟩)
    · refine Or.inl ⟨bound, fun t ht => ?_⟩
      rcases h t ht with hnull | hsame | ⟨-, s, -, hs, -⟩
      · exact Or.inl hnull
      · exact Or.inr hsame
      · exact absurd (Option.isSome_iff_exists.2 ⟨s, hs⟩) hnumeric
  · rintro (⟨single, h⟩ | h)
    · refine ⟨single, fun t ht => ?_⟩
      rcases h t ht with hnull | rfl
      · exact Or.inl hnull
      · exact .refl t
    · refine ⟨.float64, fun t ht => ?_⟩
      rcases h t ht with hnull | hnumeric
      · exact Or.inl hnull
      · exact widensTo_float64 hnumeric

end DataType

/-! ## All types of a list -/

open DataType

variable {found type : DataType} {types : List DataType}

/-- A pass ends with the widest of the type it starts with and the types it meets. -/
theorem commonTypeWith_eq_ok_iff :
    commonTypeWith found types = .ok type ↔ IsWidest (found :: types) type := by
  induction types generalizing found with
  | nil =>
    constructor
    · intro h
      obtain rfl := Except.ok.inj h
      exact ⟨List.mem_cons_self, List.forall_mem_singleton.2 (.refl _)⟩
    · rintro ⟨hmem, -⟩
      rw [List.mem_singleton.1 hmem]
      rfl
  | cons next rest ih =>
    rw [commonTypeWith_cons_eq_ok_iff]
    constructor
    · rintro ⟨middle, hmeet, hrest⟩
      have hwidest := ih.1 hrest
      rcases meet?_eq_some_iff.1 hmeet with ⟨hnext, rfl⟩ | ⟨hfound, rfl⟩
      · exact isWidest_swap.1 ((isWidest_cons_iff List.mem_cons_self hnext).2 hwidest)
      · exact (isWidest_cons_iff List.mem_cons_self hfound).2 hwidest
    · intro h
      have hbounded : found.WidensTo type := h.widens found List.mem_cons_self
      have hbounded' : next.WidensTo type :=
        h.widens next (List.mem_cons_of_mem _ List.mem_cons_self)
      rcases hbounded.total_of_bounded hbounded' with hfound | hnext
      · refine ⟨next, meet?_eq_some_iff.2 (Or.inr ⟨hfound, rfl⟩), ih.2 ?_⟩
        exact (isWidest_cons_iff List.mem_cons_self hfound).1 h
      · refine ⟨found, meet?_eq_some_iff.2 (Or.inl ⟨hnext, rfl⟩), ih.2 ?_⟩
        exact (isWidest_cons_iff List.mem_cons_self hnext).1 (isWidest_swap.1 h)

/-- The common type of a list is the widest of its types; null is below all of them. -/
theorem commonType_eq_ok_iff : commonType types = .ok type ↔ IsWidest (.null :: types) type :=
  commonTypeWith_eq_ok_iff

/-- Types have a common type where they have an upper bound. -/
theorem exists_commonType_iff :
    (∃ type, commonType types = .ok type) ↔ ∃ bound, ∀ t ∈ types, t.WidensTo bound := by
  simp only [commonType_eq_ok_iff]
  constructor
  · rintro ⟨type, -, hwidens⟩
    exact ⟨type, (List.forall_mem_cons.1 hwidens).2⟩
  · rintro ⟨bound, h⟩
    exact exists_isWidest (List.forall_mem_cons.2 ⟨Or.inl rfl, h⟩)

/-- Types widen to their common type. -/
theorem commonType_widens (h : commonType types = .ok type) : ∀ t ∈ types, t.WidensTo type :=
  (List.forall_mem_cons.1 (commonType_eq_ok_iff.1 h).widens).2

/-- Types that have the null type in common are all null. -/
theorem commonType_eq_null (h : commonType types = .ok .null) : ∀ t ∈ types, t = .null :=
  fun t ht => (commonType_widens h t ht).eq_null

/-- The order of the types does not matter for their common type. -/
theorem commonType_perm {others : List DataType} (h : others.Perm types) :
    commonType others = .ok type ↔ commonType types = .ok type := by
  rw [commonType_eq_ok_iff, commonType_eq_ok_iff]
  exact isWidest_congr fun _ => (h.cons .null).mem_iff

/-- What the common type of a list of types is. -/
structure MeetOnWidest (types : List DataType) : Prop where
  /-- In another order the types have the same common type, or again none. -/
  perm : ∀ others, others.Perm types →
    ∀ type, commonType others = .ok type ↔ commonType types = .ok type
  /-- There is one exactly when the types other than null are all the same or all numeric. -/
  exists_iff : (∃ type, commonType types = .ok type) ↔
    (∃ single, ∀ t ∈ types, t = .null ∨ t = single) ∨
      ∀ t ∈ types, t = .null ∨ t.isNumeric = true
  /-- It is one of the types, to which the others widen; null if there is none but null. -/
  widest : ∀ type, commonType types = .ok type →
    (type ∈ types ∨ type = .null ∧ ∀ t ∈ types, t = .null) ∧ ∀ t ∈ types, t.WidensTo type
  /-- It widens to every other type to which all of them widen. -/
  least : ∀ type, commonType types = .ok type →
    ∀ bound, (∀ t ∈ types, t.WidensTo bound) → type.WidensTo bound
  /-- Every value of one of the types, and null, is cast to it. -/
  casts : ∀ type, commonType types = .ok type →
    ∀ t ∈ types, ∀ v : Value, v.Fits t → ∃ w, v.cast type = .ok w

/-- Types meet on the widest of them, whatever their order. -/
theorem meetOnWidest (types : List DataType) : MeetOnWidest types where
  perm _ h _ := commonType_perm h
  exists_iff := exists_commonType_iff.trans exists_bound_iff
  widest type h := by
    refine ⟨?_, commonType_widens h⟩
    rcases List.mem_cons.1 (commonType_eq_ok_iff.1 h).mem with rfl | hmem
    · exact Or.inr ⟨rfl, commonType_eq_null h⟩
    · exact Or.inl hmem
  least type h bound hbound := by
    rcases List.mem_cons.1 (commonType_eq_ok_iff.1 h).mem with rfl | hmem
    · exact Or.inl rfl
    · exact hbound type hmem
  casts type h t ht v hv := Value.exists_cast_of_widensTo hv (commonType_widens h t ht)

/-! ## Case expressions -/

namespace Expr

variable {schema : Schema} {functions : Registry} {branches : List (Expr × Expr)}
  {otherwise : Option Expr}

/-- A case expression compiles where it has branches, they and the alternative have typed forms,
and the types of all results have a common one, which is then its own. -/
theorem exists_compile_case_iff :
    (∃ e, (Expr.case branches otherwise).compile schema functions = .ok e ∧ e.dataType = type) ↔
      branches ≠ [] ∧ ∃ ts other, List.Forall₂ (TypedBranch schema functions) branches ts ∧
        typedOtherwise schema functions otherwise = .ok other ∧
        commonType (ts.map (·.2.dataType) ++ other.toList.map TypedExpr.dataType) = .ok type := by
  constructor
  · rintro ⟨e, he, rfl⟩
    obtain ⟨t, ht, rfl⟩ := compile_eq_ok_iff.1 he
    rw [typed_case] at ht
    split at ht
    · cases ht
    · rename_i hempty
      obtain ⟨ts, hts, ht⟩ := bind_eq_ok_iff.1 ht
      obtain ⟨other, hother, ht⟩ := bind_eq_ok_iff.1 ht
      obtain ⟨found, hfound, ht⟩ := bind_eq_ok_iff.1 ht
      obtain rfl := Except.ok.inj ht
      refine ⟨fun hnil => hempty (by rw [hnil]; rfl), ts, other, ?_, hother, hfound⟩
      exact typedBranches_eq_ok_iff.1 hts
  · rintro ⟨hbranches, ts, other, hts, hother, htype⟩
    have hempty : ¬ branches.isEmpty = true := fun h => hbranches (List.isEmpty_iff.1 h)
    obtain ⟨t, hjoined, rfl⟩ : ∃ t, TypedExpr.ofBranches ts other = .ok t ∧ t.dataType = type :=
      ⟨_, bind_eq_ok_iff.2 ⟨type, htype, rfl⟩, rfl⟩
    refine ⟨_, compile_eq_ok_iff.2 ⟨t, ?_, rfl⟩, rfl⟩
    rw [typed_case, if_neg hempty]
    refine bind_eq_ok_iff.2 ⟨ts, typedBranches_eq_ok_iff.2 hts, ?_⟩
    exact bind_eq_ok_iff.2 ⟨other, hother, hjoined⟩

/-- A case expression that compiles does so with its branches in any order, and has the same
type. -/
theorem exists_compile_case_of_perm {others : List (Expr × Expr)} (h : others.Perm branches)
    (hcompile : ∃ e, (Expr.case branches otherwise).compile schema functions = .ok e ∧
      e.dataType = type) :
    ∃ e, (Expr.case others otherwise).compile schema functions = .ok e ∧ e.dataType = type := by
  rw [exists_compile_case_iff] at hcompile ⊢
  obtain ⟨hbranches, ts, other, hts, hother, htype⟩ := hcompile
  obtain ⟨us, hus, hperm⟩ := List.perm_comp_forall₂ h hts
  refine ⟨fun hnil => hbranches ?_, us, other, hus, hother, ?_⟩
  · exact (hnil ▸ h).symm.eq_nil
  · exact (commonType_perm ((hperm.map _).append_right _)).2 htype

/-- The type of a case expression does not depend on the order of its branches, nor does it whether
there is one. -/
theorem dataType_case_perm {others : List (Expr × Expr)} (h : others.Perm branches) :
    (∃ e, (Expr.case others otherwise).compile schema functions = .ok e ∧ e.dataType = type) ↔
      ∃ e, (Expr.case branches otherwise).compile schema functions = .ok e ∧ e.dataType = type :=
  ⟨exists_compile_case_of_perm h.symm, exists_compile_case_of_perm h⟩

end Expr

end StreamPlan
