import StreamPlan.Proofs.Conformance

/-!
# Widening

Values of one type are values of a wider one without loss of range.  Widening orders the types:
the null type is below all of them, the numeric types are in a row, and of the other types none
is below another.  A cast to a wider type never fails.

Main results:

- `DataType.WidensTo`: the order of the types.
- `DataType.WidensTo.antisymm`, `DataType.WidensTo.total_of_bounded`: what kind of order it is.
- `Value.exists_cast_of_widensTo`: the casts that never fail.
-/

namespace StreamPlan

/-- Values of a type are values of another without loss of range: the type is that of an untyped
null, or the same, or both are numeric and the other is no narrower. -/
def DataType.WidensTo (source target : DataType) : Prop :=
  source = .null ∨ source = target ∨
    ∃ r s, source.numericRank? = some r ∧ target.numericRank? = some s ∧ r ≤ s

/-- The rank of a numeric type tells it apart. -/
theorem DataType.eq_of_numericRank? {a b : DataType} {r : Nat} (ha : a.numericRank? = some r)
    (hb : b.numericRank? = some r) : a = b := by
  rw [numericRank?_eq_some_iff] at ha hb
  rcases hb with ⟨rfl, rfl⟩ | ⟨rfl, rfl⟩ | ⟨rfl, rfl⟩ <;> simpa using ha

namespace DataType.WidensTo

variable {a b c type : DataType}

/-- A type widens to itself. -/
theorem refl (a : DataType) : a.WidensTo a := Or.inr (Or.inl rfl)

/-- Widening goes on. -/
theorem trans (hab : a.WidensTo b) (hbc : b.WidensTo c) : a.WidensTo c := by
  rcases hab with hnull | rfl | ⟨r, s, hr, hs, hle⟩
  · exact Or.inl hnull
  · exact hbc
  · rcases hbc with rfl | rfl | ⟨s', t, hs', ht, hle'⟩
    · cases hs
    · exact Or.inr (Or.inr ⟨r, s, hr, hs, hle⟩)
    · obtain rfl := Option.some.inj (hs.symm.trans hs')
      exact Or.inr (Or.inr ⟨r, t, hr, ht, Nat.le_trans hle hle'⟩)

/-- Only the null type widens to the null type. -/
theorem eq_null (h : a.WidensTo .null) : a = .null := by
  rcases h with hnull | hsame | ⟨r, s, -, hs, -⟩
  · exact hnull
  · exact hsame
  · cases hs

/-- Types that widen to each other are one. -/
theorem antisymm (hab : a.WidensTo b) (hba : b.WidensTo a) : a = b := by
  rcases hab with rfl | hsame | ⟨r, s, hr, hs, hle⟩
  · exact hba.eq_null.symm
  · exact hsame
  · rcases hba with rfl | hsame | ⟨s', r', hs', hr', hle'⟩
    · cases hs
    · exact hsame.symm
    · obtain rfl := Option.some.inj (hr.symm.trans hr')
      obtain rfl := Option.some.inj (hs.symm.trans hs')
      exact eq_of_numericRank? hr (Nat.le_antisymm hle hle' ▸ hs)

/-- Of two types that widen to one type, one widens to the other. -/
theorem total_of_bounded (ha : a.WidensTo c) (hb : b.WidensTo c) :
    a.WidensTo b ∨ b.WidensTo a := by
  rcases ha with rfl | rfl | ⟨r, t, hr, ht, hle⟩
  · exact Or.inl (Or.inl rfl)
  · exact Or.inr hb
  · rcases hb with rfl | rfl | ⟨s, t', hs, ht', hle'⟩
    · exact Or.inr (Or.inl rfl)
    · exact Or.inl (Or.inr (Or.inr ⟨r, t, hr, ht, hle⟩))
    · rcases Nat.le_total r s with hrs | hsr
      · exact Or.inl (Or.inr (Or.inr ⟨r, s, hr, hs, hrs⟩))
      · exact Or.inr (Or.inr (Or.inr ⟨s, r, hs, hr, hsr⟩))

/-- Two numeric types widen to the wider one. -/
theorem of_wider? (h : a.wider? b = some type) : a.WidensTo type ∧ b.WidensTo type := by
  unfold wider? at h
  split at h
  · rename_i ra rb ha hb
    obtain rfl := Option.some.inj h
    split
    · rename_i hle
      exact ⟨refl a, Or.inr (Or.inr ⟨rb, ra, hb, ha, hle⟩)⟩
    · rename_i hle
      exact ⟨Or.inr (Or.inr ⟨ra, rb, ha, hb, Nat.le_of_not_le hle⟩), refl b⟩
  · cases h

end DataType.WidensTo

namespace Value

/-- A value that can be converted can be cast. -/
theorem exists_cast_of_convert? {v w : Value} {target : DataType}
    (h : v.convert? target = some w) : ∃ w, v.cast target = .ok w := by
  unfold cast
  split
  · exact ⟨v, rfl⟩
  · exact ⟨w, by rw [h]⟩

/-- A number can be cast to every numeric type that is no narrower than its own. -/
theorem exists_cast_of_rank_le {v : Value} {target : DataType} {r s : Nat}
    (hr : v.dataType.numericRank? = some r) (hs : target.numericRank? = some s) (hle : r ≤ s) :
    ∃ w, v.cast target = .ok w := by
  cases v with
  | int32 n =>
    rcases DataType.numericRank?_eq_some_iff.1 hs with ⟨rfl, -⟩ | ⟨rfl, -⟩ | ⟨rfl, -⟩
    · exact ⟨_, cast_of_dataType_eq rfl⟩
    · have hword := Word.int64?_eq_some_iff.2 (Int32.toInt_toInt64 n)
      exact exists_cast_of_convert? (congrArg (Option.map int64) hword)
    · exact exists_cast_of_convert? rfl
  | int64 n =>
    obtain rfl : 2 = r := Option.some.inj hr
    rcases DataType.numericRank?_eq_some_iff.1 hs with ⟨rfl, rfl⟩ | ⟨rfl, -⟩ | ⟨rfl, -⟩
    · omega
    · exact ⟨_, cast_of_dataType_eq rfl⟩
    · exact exists_cast_of_convert? rfl
  | float64 x =>
    obtain rfl : 3 = r := Option.some.inj hr
    rcases DataType.numericRank?_eq_some_iff.1 hs with ⟨rfl, rfl⟩ | ⟨rfl, rfl⟩ | ⟨rfl, -⟩
    · omega
    · omega
    · exact ⟨_, cast_of_dataType_eq rfl⟩
  | null | boolean | utf8 | time => cases hr

/-- A value can be cast to every type that its own type widens to. -/
theorem exists_cast_of_widensTo {v : Value} {source target : DataType}
    (hv : v.Fits source) (h : source.WidensTo target) : ∃ w, v.cast target = .ok w := by
  rcases hv with rfl | rfl
  · exact ⟨.null, cast_null target⟩
  · rcases h with hnull | hsame | ⟨r, s, hr, hs, hle⟩
    · obtain rfl := dataType_eq_null_iff.1 hnull
      exact ⟨.null, cast_null target⟩
    · exact ⟨v, cast_of_dataType_eq hsame⟩
    · exact exists_cast_of_rank_le hr hs hle

end Value

end StreamPlan
