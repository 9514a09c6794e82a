/-!
# Sets of column positions

A set of positions is a strictly increasing list.

Main results:

- `mem_insertIndex`, `pairwise_insertIndex`: insertion adds a position and keeps the order.
- `IndexSet.dropFrom`: a list without the items at the positions of a set.
-/

namespace StreamPlan

/-- Put a position at its place in an increasing list, unless it is there. -/
def insertIndex (i : Nat) : List Nat → List Nat
  | [] => [i]
  | j :: rest =>
    if i < j then i :: j :: rest
    else if i = j then j :: rest
    else j :: insertIndex i rest

/-- Inserting adds one member. -/
theorem mem_insertIndex {i k : Nat} {indexes : List Nat} :
    k ∈ insertIndex i indexes ↔ k = i ∨ k ∈ indexes := by
  induction indexes with
  | nil => simp [insertIndex]
  | cons j rest ih =>
    by_cases hlt : i < j
    · simp [insertIndex, hlt]
    · by_cases heq : i = j
      · subst heq
        simp [insertIndex]
      · simp only [insertIndex, hlt, heq, if_false, List.mem_cons, ih]
        constructor
        · rintro (h | h | h)
          · exact Or.inr (Or.inl h)
          · exact Or.inl h
          · exact Or.inr (Or.inr h)
        · rintro (h | h | h)
          · exact Or.inr (Or.inl h)
          · exact Or.inl h
          · exact Or.inr (Or.inr h)

/-- Inserting keeps the order. -/
theorem pairwise_insertIndex {i : Nat} {indexes : List Nat} (h : indexes.Pairwise (· < ·)) :
    (insertIndex i indexes).Pairwise (· < ·) := by
  induction indexes with
  | nil => simp [insertIndex]
  | cons j rest ih =>
    obtain ⟨hj, hrest⟩ := List.pairwise_cons.1 h
    by_cases hlt : i < j
    · simp only [insertIndex, hlt, if_true]
      refine List.pairwise_cons.2 ⟨fun k hk => ?_, h⟩
      rcases List.mem_cons.1 hk with rfl | hk
      · exact hlt
      · exact Nat.lt_trans hlt (hj k hk)
    · by_cases heq : i = j
      · simp only [insertIndex, heq, if_true, Nat.lt_irrefl, if_false]
        exact h
      · simp only [insertIndex, hlt, heq, if_false]
        refine List.pairwise_cons.2 ⟨fun k hk => ?_, ih hrest⟩
        rcases mem_insertIndex.1 hk with rfl | hk
        · omega
        · exact hj k hk

/-- A set of column positions. -/
structure IndexSet where
  indexes : List Nat
  increasing : indexes.Pairwise (· < ·)
deriving DecidableEq

namespace IndexSet

/-- The positions of a list. -/
def ofList : List Nat → IndexSet
  | [] => ⟨[], List.Pairwise.nil⟩
  | i :: rest => ⟨insertIndex i (ofList rest).indexes, pairwise_insertIndex (ofList rest).increasing⟩

/-- Whether a position is in the set. -/
def contains (set : IndexSet) (i : Nat) : Bool := set.indexes.contains i

/-- The least position at or beyond a width. -/
def firstBeyond? (set : IndexSet) (width : Nat) : Option Nat :=
  set.indexes.find? fun i => width ≤ i

/-- The elements of a list whose positions are not in the set. -/
def dropFrom {α : Type} (set : IndexSet) (xs : List α) : List α :=
  (xs.zipIdx.filter fun pair => !set.contains pair.2).map (·.1)

/-- The positions in braces. -/
def text (set : IndexSet) : String :=
  "\x7b" ++ ", ".intercalate (set.indexes.map fun i => toString i) ++ "\x7d"

end IndexSet

end StreamPlan
