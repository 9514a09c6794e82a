/-!
# Splitting at a separator

A text is split at the first place where a separator character stands.

Main results:

- `splitFirst_eq_none_iff`: there is no split exactly when the separator does not occur.
- `splitFirst_eq_some`: the parts put the text together again, and the first part
  is free of the separator.
-/

namespace StreamPlan.Text

/-- The parts before and after the first `sep`, or nothing when `sep` does not occur. -/
def splitFirst (sep : Char) : List Char → Option (List Char × List Char)
  | [] => none
  | c :: cs =>
    if c = sep then some ([], cs)
    else (splitFirst sep cs).map fun parts => (c :: parts.1, parts.2)

/-- A text is not split exactly when it is free of the separator. -/
theorem splitFirst_eq_none_iff {sep : Char} {cs : List Char} :
    splitFirst sep cs = none ↔ sep ∉ cs := by
  induction cs with
  | nil => simp [splitFirst]
  | cons c cs ih =>
    by_cases h : c = sep
    · simp [splitFirst, h]
    · simp [splitFirst, h, ih, Ne.symm h]

/-- The parts put the text together again, and the first part is free of the separator. -/
theorem splitFirst_eq_some {sep : Char} {cs before after : List Char} :
    splitFirst sep cs = some (before, after) ↔
      cs = before ++ sep :: after ∧ sep ∉ before := by
  induction cs generalizing before with
  | nil => simp [splitFirst]
  | cons c cs ih =>
    by_cases h : c = sep
    · subst h
      cases before with
      | nil => simp [splitFirst, eq_comm]
      | cons b bs =>
        simp only [splitFirst, if_true, Option.some.injEq, Prod.mk.injEq, List.cons_append,
          List.cons.injEq, List.mem_cons, not_or]
        constructor
        · intro hh
          exact absurd hh.1 (by simp)
        · rintro ⟨⟨rfl, _⟩, hn, _⟩
          exact absurd rfl hn
    · cases before with
      | nil => simp [splitFirst, h]
      | cons b bs =>
        simp only [splitFirst, h, if_false, Option.map_eq_some_iff, Prod.mk.injEq,
          List.cons.injEq, List.cons_append, List.mem_cons, not_or]
        constructor
        · rintro ⟨⟨x, y⟩, hxy, ⟨rfl, rfl⟩, rfl⟩
          obtain ⟨hcs, hmem⟩ := ih.1 hxy
          exact ⟨⟨rfl, hcs⟩, Ne.symm h, hmem⟩
        · rintro ⟨⟨rfl, hcs⟩, _, hmem⟩
          exact ⟨(bs, after), ih.2 ⟨hcs, hmem⟩, ⟨rfl, rfl⟩, rfl⟩

end StreamPlan.Text
