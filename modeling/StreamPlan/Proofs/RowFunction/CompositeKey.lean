import Mathlib.Data.List.Infix
import StreamPlan.Function.Builtin
import StreamPlan.RowFunction.GroupKey

/-!
# Parts of composite keys

The parts of a composite key are joined by a separator whose first and last characters are
the same.  Two separators can therefore overlap: a part may end with the first two characters
of a separator, and the next one may begin with the last two.  Parts that do not contain the
separator are found again in the key exactly when this does not happen.

Main results:

- `Straddles`, `Aligned`: whether a separator can be moved within two lists of parts.
- `eq_or_straddles`: lists of parts with the same joined text.
- `GroupKey.determines_parts_iff`: when the key of two rows tells their parts apart.
-/

namespace StreamPlan

/-- The text contains no separator. -/
def DelimiterFree (part : String) : Prop := ¬ keyDelimiter.toList <:+: part.toList

instance (part : String) : Decidable (DelimiterFree part) :=
  inferInstanceAs (Decidable (¬ _))

/-- The lists agree up to one part.  There the second list goes on with two characters of
a separator, and the first list begins its next part with the other two. -/
def Straddles (xs ys : List String) : Prop :=
  ∃ common part rest others, xs = common ++ part :: rest ∧
    ys = common ++ (part ++ "|+") :: others ∧
    keyDelimiter.intercalate rest = "+|" ++ keyDelimiter.intercalate others

/-- Neither list straddles the other. -/
def Aligned (xs ys : List String) : Prop := ¬ Straddles xs ys ∧ ¬ Straddles ys xs

/-! ## One part -/

/-- Behind a separator-free text, a separator starts where the other one does or two
characters later. -/
theorem eq_nil_or_overlap {before between after rest : List Char}
    (hfree : ¬ keyDelimiter.toList <:+: before ++ between)
    (h : keyDelimiter.toList ++ after = between ++ (keyDelimiter.toList ++ rest)) :
    between = [] ∨ between = ['|', '+'] ∧ after = '+' :: '|' :: rest := by
  have hdelimiter : keyDelimiter.toList = ['|', '+', '|'] := rfl
  rw [hdelimiter] at h hfree
  match between, h, hfree with
  | [], _, _ => exact Or.inl rfl
  | [a], h, _ => simp at h
  | [a, b], h, _ =>
    simp only [List.cons_append, List.nil_append, List.cons.injEq] at h
    obtain ⟨rfl, rfl, -, rfl⟩ := h
    exact Or.inr ⟨rfl, rfl⟩
  | a :: b :: c :: more, h, hfree =>
    -- Three characters later the text would contain the separator.
    simp only [List.cons_append, List.nil_append, List.cons.injEq] at h
    obtain ⟨rfl, rfl, rfl, -⟩ := h
    exact absurd ⟨before, more, by simp⟩ hfree

/-- Two separator-free parts in front of a separator are the same, or one goes on with two
characters of it. -/
theorem eq_or_overlap {x y after rest : String} (hy : DelimiterFree y)
    (h : x ++ keyDelimiter ++ after = y ++ keyDelimiter ++ rest)
    (hle : x.toList.length ≤ y.toList.length) :
    (x = y ∧ after = rest) ∨ (y = x ++ "|+" ∧ after = "+|" ++ rest) := by
  have hlists := congrArg String.toList h
  simp only [String.toList_append, List.append_assoc] at hlists
  obtain ⟨between, hbetween, hrest⟩ | ⟨between, hbetween, hrest⟩ :=
    List.append_eq_append_iff.1 hlists
  · rw [DelimiterFree, hbetween] at hy
    rcases eq_nil_or_overlap hy hrest with rfl | ⟨rfl, hafter⟩
    · left
      rw [List.nil_append, List.append_cancel_left_eq] at hrest
      exact ⟨(String.toList_inj.1 (by simpa using hbetween)).symm, String.toList_inj.1 hrest⟩
    · right
      refine ⟨String.toList_inj.1 ?_, String.toList_inj.1 ?_⟩
      · simpa using hbetween
      · simpa using hafter
  · have hlength := congrArg List.length hbetween
    rw [List.length_append] at hlength
    obtain rfl : between = [] := List.eq_nil_of_length_eq_zero (by omega)
    left
    rw [List.nil_append, List.append_cancel_left_eq] at hrest
    exact ⟨String.toList_inj.1 (by simpa using hbetween), (String.toList_inj.1 hrest).symm⟩

/-! ## Lists of parts -/

/-- What straddles still does behind a common part. -/
theorem Straddles.cons {xs ys : List String} (h : Straddles xs ys) (part : String) :
    Straddles (part :: xs) (part :: ys) := by
  obtain ⟨common, first, rest, others, rfl, rfl, hjoined⟩ := h
  exact ⟨part :: common, first, rest, others, rfl, rfl, hjoined⟩

/-- What is the same or straddles still is or does behind a common part. -/
theorem eq_or_straddles_cons {xs ys : List String}
    (h : xs = ys ∨ Straddles xs ys ∨ Straddles ys xs) (part : String) :
    part :: xs = part :: ys ∨ Straddles (part :: xs) (part :: ys) ∨
      Straddles (part :: ys) (part :: xs) := by
  rcases h with rfl | hxy | hyx
  · exact Or.inl rfl
  · exact Or.inr (Or.inl (hxy.cons part))
  · exact Or.inr (Or.inr (hyx.cons part))

/-- Separator-free parts with the same joined text are the same, or one list straddles the
other. -/
theorem eq_or_straddles {xs ys : List String} (hlength : xs.length = ys.length)
    (hx : ∀ x ∈ xs, DelimiterFree x) (hy : ∀ y ∈ ys, DelimiterFree y)
    (h : keyDelimiter.intercalate xs = keyDelimiter.intercalate ys) :
    xs = ys ∨ Straddles xs ys ∨ Straddles ys xs := by
  induction xs generalizing ys with
  | nil => exact Or.inl (List.eq_nil_of_length_eq_zero hlength.symm).symm
  | cons x xs ih =>
    rcases ys with _ | ⟨y, ys⟩
    · cases hlength
    rw [List.forall_mem_cons] at hx hy
    rcases xs with _ | ⟨x', xs⟩
    · obtain rfl : ys = [] := List.eq_nil_of_length_eq_zero (Nat.succ.inj hlength).symm
      rw [String.intercalate_singleton, String.intercalate_singleton] at h
      exact Or.inl (h ▸ rfl)
    rcases ys with _ | ⟨y', ys⟩
    · cases hlength
    rw [String.intercalate_cons_cons, String.intercalate_cons_cons] at h
    have hrest := ih (Nat.succ.inj hlength) hx.2 hy.2
    rcases Nat.le_total x.toList.length y.toList.length with hle | hle
    · rcases eq_or_overlap hy.1 h hle with ⟨rfl, hsame⟩ | ⟨rfl, hafter⟩
      · exact eq_or_straddles_cons (hrest hsame) x
      · exact Or.inr (Or.inl ⟨[], x, _, _, rfl, rfl, hafter⟩)
    · rcases eq_or_overlap hx.1 h.symm hle with ⟨rfl, hsame⟩ | ⟨rfl, hafter⟩
      · exact eq_or_straddles_cons (hrest hsame.symm) y
      · exact Or.inr (Or.inr ⟨[], y, _, _, rfl, rfl, hafter⟩)

namespace Straddles

variable {xs ys : List String}

/-- Lists that straddle each other are different. -/
theorem ne (h : Straddles xs ys) : xs ≠ ys := by
  obtain ⟨common, part, rest, others, rfl, rfl, -⟩ := h
  intro heq
  have hpart : part = part ++ "|+" := (List.cons.inj (List.append_cancel_left heq)).1
  have hlength := congrArg (fun s => s.toList.length) hpart
  simp at hlength

/-- The list that goes on has a further part, and so has the other one. -/
theorem rest_ne_nil {rest others : List String}
    (h : keyDelimiter.intercalate rest = "+|" ++ keyDelimiter.intercalate others) :
    rest ≠ [] := by
  rintro rfl
  have hlength := congrArg (fun s => s.toList.length) h
  simp at hlength

/-- Lists of one length that straddle each other have the same joined text. -/
theorem intercalate_eq (h : Straddles xs ys) (hlength : xs.length = ys.length) :
    keyDelimiter.intercalate xs = keyDelimiter.intercalate ys := by
  obtain ⟨common, part, rest, others, rfl, rfl, hjoined⟩ := h
  have hrest : rest ≠ [] := rest_ne_nil hjoined
  have hothers : others ≠ [] := by
    rintro rfl
    apply hrest
    simpa using hlength
  have hend : keyDelimiter.intercalate (part :: rest) =
      keyDelimiter.intercalate ((part ++ "|+") :: others) := by
    rw [String.intercalate_cons_of_ne_nil hrest, String.intercalate_cons_of_ne_nil hothers,
      hjoined]
    apply String.toList_inj.1
    simp [keyDelimiter]
  rcases common with _ | ⟨first, more⟩
  · exact hend
  · rw [String.intercalate_append_of_ne_nil (List.cons_ne_nil first more) (List.cons_ne_nil _ _),
      String.intercalate_append_of_ne_nil (List.cons_ne_nil first more) (List.cons_ne_nil _ _),
      hend]

/-- A part before the last one of the list that goes on ends with two characters of a
separator. -/
theorem exists_end (h : Straddles xs ys) (hlength : xs.length = ys.length) :
    ∃ part ∈ ys.dropLast, "|+".toList <:+ part.toList := by
  obtain ⟨common, part, rest, others, rfl, rfl, hjoined⟩ := h
  have hothers : others ≠ [] := by
    rintro rfl
    apply rest_ne_nil hjoined
    simpa using hlength
  refine ⟨part ++ "|+", ?_, part.toList, (String.toList_append).symm⟩
  rw [List.dropLast_append_cons, List.dropLast_cons_of_ne_nil hothers]
  exact List.mem_append_right _ List.mem_cons_self

/-- A part behind the first one of the other list begins as a separator goes on. -/
theorem exists_start (h : Straddles xs ys) :
    ∃ part ∈ xs.tail, "+".toList <+: part.toList := by
  obtain ⟨common, part, rest, others, rfl, -, hjoined⟩ := h
  rcases rest with _ | ⟨next, more⟩
  · exact absurd rfl (rest_ne_nil hjoined)
  have hmem : next ∈ (common ++ part :: next :: more).tail := by
    rcases common with _ | ⟨first, before⟩
    · exact List.mem_cons_self
    · exact List.mem_append_right _ (List.mem_cons_of_mem _ List.mem_cons_self)
  refine ⟨next, hmem, ?_⟩
  have hlists := congrArg String.toList hjoined
  rcases more with _ | ⟨second, more⟩
  · rw [String.intercalate_singleton, String.toList_append] at hlists
    exact ⟨'|' :: (keyDelimiter.intercalate others).toList, hlists.symm⟩
  · rw [String.intercalate_cons_cons] at hlists
    simp only [String.toList_append] at hlists
    -- An empty part would put the separator itself there, which begins otherwise.
    rcases hnext : next.toList with _ | ⟨c, cs⟩
    · rw [hnext] at hlists
      simp [keyDelimiter] at hlists
    · rw [hnext] at hlists
      obtain rfl : c = '+' := (List.cons.inj hlists).1
      exact ⟨cs, rfl⟩

end Straddles

/-- No lists are misaligned when none of their parts but the last ends with two characters of
a separator. -/
theorem aligned_of_ends {xs ys : List String} (hlength : xs.length = ys.length)
    (h : ∀ part ∈ xs.dropLast ++ ys.dropLast, ¬ "|+".toList <:+ part.toList) :
    Aligned xs ys := by
  constructor
  · intro hstraddles
    obtain ⟨part, hpart, hend⟩ := hstraddles.exists_end hlength
    exact h part (List.mem_append_right _ hpart) hend
  · intro hstraddles
    obtain ⟨part, hpart, hend⟩ := hstraddles.exists_end hlength.symm
    exact h part (List.mem_append_left _ hpart) hend

/-- No lists are misaligned when none of their parts but the first begins as a separator goes
on. -/
theorem aligned_of_starts {xs ys : List String}
    (h : ∀ part ∈ xs.tail ++ ys.tail, ¬ "+".toList <+: part.toList) : Aligned xs ys := by
  constructor
  · intro hstraddles
    obtain ⟨part, hpart, hstart⟩ := hstraddles.exists_start
    exact h part (List.mem_append_left _ hpart) hstart
  · intro hstraddles
    obtain ⟨part, hpart, hstart⟩ := hstraddles.exists_start
    exact h part (List.mem_append_right _ hpart) hstart

/-! ## Keys of rows -/

namespace GroupKey

variable {key : GroupKey} {r s : Row}

/-- Two rows have the same number of parts. -/
theorem length_parts_eq (key : GroupKey) (r s : Row) :
    (key.parts r).length = (key.parts s).length := by
  simp [parts]

/-- Two rows have the same key exactly when the joined texts of their parts are the same. -/
theorem keyFor_eq_iff :
    key.keyFor r = key.keyFor s ↔
      keyDelimiter.intercalate (key.parts r) = keyDelimiter.intercalate (key.parts s) := by
  rw [keyFor_eq, keyFor_eq, Value.utf8.injEq]

/-- Over parts without separators, the key tells the parts of two rows apart exactly when
they do not straddle.  They do not when none but the last ends with two characters of a
separator, and neither when none but the first begins as a separator goes on. -/
theorem determines_parts_iff (hr : ∀ part ∈ key.parts r, DelimiterFree part)
    (hs : ∀ part ∈ key.parts s, DelimiterFree part) :
    ((key.keyFor r = key.keyFor s → key.parts r = key.parts s) ↔
      Aligned (key.parts r) (key.parts s)) ∧
    ((∀ part ∈ (key.parts r).dropLast ++ (key.parts s).dropLast,
        ¬ "|+".toList <:+ part.toList) → Aligned (key.parts r) (key.parts s)) ∧
    ((∀ part ∈ (key.parts r).tail ++ (key.parts s).tail, ¬ "+".toList <+: part.toList) →
      Aligned (key.parts r) (key.parts s)) := by
  have hlength := key.length_parts_eq r s
  refine ⟨⟨?_, ?_⟩, aligned_of_ends hlength, aligned_of_starts⟩
  · intro hdetermines
    constructor
    · intro hstraddles
      exact hstraddles.ne (hdetermines (keyFor_eq_iff.2 (hstraddles.intercalate_eq hlength)))
    · intro hstraddles
      have hsame := hstraddles.intercalate_eq hlength.symm
      exact hstraddles.ne (hdetermines (keyFor_eq_iff.2 hsame.symm)).symm
  · rintro ⟨hrs, hsr⟩ hkey
    rcases eq_or_straddles hlength hr hs (keyFor_eq_iff.1 hkey) with heq | h | h
    · exact heq
    · exact absurd h hrs
    · exact absurd h hsr

/-- Two columns of strings. -/
def twoNames : Schema := ⟨[⟨"A", .utf8⟩, ⟨"B", .utf8⟩]⟩

/-- Both columns, one part each. -/
def bothNames : List Expr := [.column ⟨none, "A"⟩, .column ⟨none, "B"⟩]

/-- Parts that hold pieces of a separator and do not straddle one are told apart. -/
theorem determines_parts_pieces :
    ∃ compiled, Expr.compileAll "Group By" twoNames Registry.builtins bothNames = .ok compiled ∧
      (GroupKey.mk compiled).parts ⟨[.utf8 "+|a", .utf8 "+b|+"]⟩ = ["+|a", "+b|+"] ∧
      (GroupKey.mk compiled).parts ⟨[.utf8 "+|a|", .utf8 "b|+"]⟩ = ["+|a|", "b|+"] ∧
      (GroupKey.mk compiled).keyFor ⟨[.utf8 "+|a", .utf8 "+b|+"]⟩ ≠
        (GroupKey.mk compiled).keyFor ⟨[.utf8 "+|a|", .utf8 "b|+"]⟩ := by
  obtain ⟨compiled, hcompiled, hr, hs⟩ :
      ∃ compiled, Expr.compileAll "Group By" twoNames Registry.builtins bothNames = .ok compiled ∧
        (GroupKey.mk compiled).parts ⟨[.utf8 "+|a", .utf8 "+b|+"]⟩ = ["+|a", "+b|+"] ∧
        (GroupKey.mk compiled).parts ⟨[.utf8 "+|a|", .utf8 "b|+"]⟩ = ["+|a|", "b|+"] :=
    ⟨_, rfl, rfl, rfl⟩
  refine ⟨compiled, hcompiled, hr, hs, fun hkey => ?_⟩
  obtain ⟨hiff, hends, -⟩ :=
    determines_parts_iff (by rw [hr]; decide) (by rw [hs]; decide)
  have hsame := hiff.2 (hends (by rw [hr, hs]; decide)) hkey
  rw [hr, hs] at hsame
  exact absurd hsame (by decide)

/-- Two rows with different parts, none with a separator in it, and the same key: where the
first one ends a part with two characters of a separator, the second one begins its next part
with two. -/
theorem not_determines_parts_overlap :
    ∃ compiled, Expr.compileAll "Group By" twoNames Registry.builtins bothNames = .ok compiled ∧
      (GroupKey.mk compiled).parts ⟨[.utf8 "a|+", .utf8 "b"]⟩ = ["a|+", "b"] ∧
      (GroupKey.mk compiled).parts ⟨[.utf8 "a", .utf8 "+|b"]⟩ = ["a", "+|b"] ∧
      (∀ part ∈ ["a|+", "b"] ++ ["a", "+|b"], DelimiterFree part) ∧
      (GroupKey.mk compiled).keyFor ⟨[.utf8 "a|+", .utf8 "b"]⟩ = .utf8 "a|+|+|b" ∧
      (GroupKey.mk compiled).keyFor ⟨[.utf8 "a", .utf8 "+|b"]⟩ = .utf8 "a|+|+|b" ∧
      ["a|+", "b"] ≠ ["a", "+|b"] :=
  ⟨_, rfl, rfl, rfl, by decide, rfl, rfl, by decide⟩

end GroupKey

end StreamPlan
