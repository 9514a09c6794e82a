import StreamPlan.Expr.Typing
import StreamPlan.Proofs.Cast.Widening
import StreamPlan.Proofs.Value.Promotion

/-!
# Where types meet

Comparison, arithmetic and case expressions find the type of their operands each by a code of
its own.  All of them take the type on which two types meet, and refuse some of these types.
Where types are promoted, so is the type on which they meet.

Main results:

- `DataType.meet?`: the type on which two types meet.
- `DataType.meet?_eq_some_iff`: it is the one to which the other widens.
- `comparisonType_eq_ok_iff`, `arithmeticType_eq_ok_iff`, `commonTypeWith_cons_eq_ok_iff`: what
  the operations make of it.
- `comparisonType_widens`, `arithmeticType_widens`: the sides widen to it.
- `comparisonType_promotes`, `arithmeticType_promotes`, `commonType_promotes`: promoted operands.
-/

namespace StreamPlan

/-! ## Two types -/

namespace DataType

variable {a b a' b' type : DataType}

/-- The type on which two types meet: null takes the other type, a type meets itself, and of two
numeric types the wider one is taken. -/
def meet? (a b : DataType) : Option DataType :=
  if a = .null then some b else if b = .null ∨ a = b then some a else a.wider? b

/-- The wider of two numeric types is one of them. -/
theorem eq_or_eq_of_wider? (h : a.wider? b = some type) :
    (type = a ∨ type = b) ∧ a.isNumeric = true ∧ b.isNumeric = true := by
  unfold wider? at h
  split at h
  · rename_i ra rb ha hb
    refine ⟨?_, by rw [isNumeric, ha]; rfl, by rw [isNumeric, hb]; rfl⟩
    split at h
    · exact Or.inl (Option.some.inj h).symm
    · exact Or.inr (Option.some.inj h).symm
  · cases h

/-- The wider of two numeric types is numeric. -/
theorem isNumeric_of_wider? (h : a.wider? b = some type) : type.isNumeric = true := by
  obtain ⟨rfl | rfl, ha, hb⟩ := eq_or_eq_of_wider? h
  · exact ha
  · exact hb

/-- The null type is not numeric. -/
theorem ne_null_of_isNumeric (h : type.isNumeric = true) : type ≠ .null := by
  rintro rfl
  cases h

/-- A numeric type is the wider of itself and itself. -/
theorem wider?_self (h : a.isNumeric = true) : a.wider? a = some a := by
  obtain ⟨r, hr⟩ := Option.isSome_iff_exists.1 h
  unfold wider?
  rw [hr]
  exact congrArg some (if_pos (Nat.le_refl r))

/-- Two numeric types meet on the wider one. -/
theorem meet?_of_isNumeric (ha : a.isNumeric = true) (hb : b.isNumeric = true) :
    a.meet? b = a.wider? b := by
  rw [meet?, if_neg (ne_null_of_isNumeric ha)]
  split
  · rename_i hsame
    obtain rfl := hsame.resolve_left (ne_null_of_isNumeric hb)
    exact (wider?_self ha).symm
  · rfl

/-- The order of the two types does not matter. -/
theorem meet?_comm (a b : DataType) : a.meet? b = b.meet? a := by
  unfold meet?
  by_cases ha : a = .null
  · by_cases hb : b = .null <;> simp [ha, hb]
  · by_cases hb : b = .null
    · simp [ha, hb]
    · by_cases hab : a = b
      · simp [hab]
      · simp [ha, hb, hab, Ne.symm hab, wider?_comm a b]

/-- A type meets one that widens to it on itself. -/
theorem meet?_of_widensTo (h : b.WidensTo a) : a.meet? b = some a := by
  unfold meet?
  by_cases ha : a = .null
  · subst ha
    rw [if_pos rfl, h.eq_null]
  · rw [if_neg ha]
    rcases h with hnull | rfl | ⟨r, s, hr, hs, hle⟩
    · exact if_pos (Or.inl hnull)
    · exact if_pos (Or.inr rfl)
    · split
      · rfl
      · rw [wider?, hs, hr]
        exact congrArg some (if_pos hle)

/-- Two types meet on the one to which the other widens, if there is one. -/
theorem meet?_eq_some_iff :
    a.meet? b = some type ↔ b.WidensTo a ∧ type = a ∨ a.WidensTo b ∧ type = b := by
  constructor
  · intro h
    unfold meet? at h
    split at h
    · rename_i hnull
      exact Or.inr ⟨Or.inl hnull, (Option.some.inj h).symm⟩
    · split at h
      · rename_i hsame
        refine Or.inl ⟨?_, (Option.some.inj h).symm⟩
        rcases hsame with hnull | rfl
        · exact Or.inl hnull
        · exact .refl a
      · obtain ⟨ha, hb⟩ := WidensTo.of_wider? h
        rcases (eq_or_eq_of_wider? h).1 with rfl | rfl
        · exact Or.inl ⟨hb, rfl⟩
        · exact Or.inr ⟨ha, rfl⟩
  · rintro (⟨hwidens, rfl⟩ | ⟨hwidens, rfl⟩)
    · exact meet?_of_widensTo hwidens
    · rw [meet?_comm]
      exact meet?_of_widensTo hwidens

/-- Two types widen to the one on which they meet. -/
theorem widensTo_of_meet? (h : a.meet? b = some type) : a.WidensTo type ∧ b.WidensTo type := by
  rcases meet?_eq_some_iff.1 h with ⟨hwidens, rfl⟩ | ⟨hwidens, rfl⟩
  · exact ⟨.refl _, hwidens⟩
  · exact ⟨hwidens, .refl _⟩

/-- Types meet on a numeric type when one of them is null, or as numeric types. -/
theorem operands_of_meet? (h : a.meet? b = some type) (htype : type.isNumeric = true) :
    a = .null ∧ b = type ∨ b = .null ∧ a = type ∨ a.wider? b = some type := by
  unfold meet? at h
  split at h
  · rename_i ha
    exact Or.inl ⟨ha, Option.some.inj h⟩
  · split at h
    · rename_i hsame
      obtain rfl := Option.some.inj h
      rcases hsame with hb | rfl
      · exact Or.inr (Or.inl ⟨hb, rfl⟩)
      · exact Or.inr (Or.inr (wider?_self htype))
    · exact Or.inr (Or.inr h)

/-- A numeric type meets null and numeric types. -/
theorem eq_null_or_isNumeric_of_meet? (ha : a.isNumeric = true) (h : a.meet? b = some type) :
    b = .null ∨ b.isNumeric = true := by
  rw [meet?, if_neg (ne_null_of_isNumeric ha)] at h
  split at h
  · rename_i hsame
    rcases hsame with hnull | rfl
    · exact Or.inl hnull
    · exact Or.inr ha
  · exact Or.inr (eq_or_eq_of_wider? h).2.2

/-- Where the first of two types is promoted, so is the type on which they meet. -/
theorem meet?_promotes_left (ha : a.PromotesTo a') (h : a.meet? b = some type) :
    ∃ wide, a'.meet? b = some wide ∧ type.PromotesTo wide := by
  rcases ha with rfl | ⟨rfl, rfl⟩
  · exact ⟨type, h, .refl type⟩
  · rcases eq_null_or_isNumeric_of_meet? rfl h with rfl | hb
    · exact ⟨.int64, rfl, Option.some.inj h ▸ Or.inr ⟨rfl, rfl⟩⟩
    · obtain ⟨r, hr⟩ := Option.isSome_iff_exists.1 hb
      rcases numericRank?_eq_some_iff.1 hr with ⟨rfl, -⟩ | ⟨rfl, -⟩ | ⟨rfl, -⟩
      · exact ⟨.int64, rfl, Option.some.inj h ▸ Or.inr ⟨rfl, rfl⟩⟩
      · exact ⟨.int64, rfl, Option.some.inj h ▸ .refl _⟩
      · exact ⟨.float64, rfl, Option.some.inj h ▸ .refl _⟩

/-- Where two types are promoted, so is the type on which they meet. -/
theorem meet?_promotes (ha : a.PromotesTo a') (hb : b.PromotesTo b')
    (h : a.meet? b = some type) : ∃ wide, a'.meet? b' = some wide ∧ type.PromotesTo wide := by
  obtain ⟨middle, hmiddle, htype⟩ := meet?_promotes_left ha h
  rw [meet?_comm] at hmiddle
  obtain ⟨wide, hwide, hpromoted⟩ := meet?_promotes_left hb hmiddle
  exact ⟨wide, (meet?_comm a' b').trans hwide, htype.trans hpromoted⟩

end DataType

/-! ## Operands -/

variable {left right left' right' type : DataType}

/-- The sides of a comparison meet, and truth values are not ordered. -/
theorem comparisonType_eq_ok_iff {op : CompareOp} :
    comparisonType op left right = .ok type ↔
      left.meet? right = some type ∧ (left = .boolean → op.isEquality = true) := by
  unfold comparisonType DataType.meet?
  by_cases hleft : left = .null
  · simp [hleft]
  · rw [if_neg hleft, if_neg hleft]
    by_cases hmeet : right = .null ∨ left = right
    · rw [if_pos hmeet, if_pos hmeet]
      by_cases hbool : left = .boolean
      · cases hop : op.isEquality <;> simp [hbool]
      · simp [hbool]
    · rw [if_neg hmeet, if_neg hmeet]
      cases hwider : left.wider? right with
      | none => simp
      | some wider =>
        have hbool : left ≠ .boolean := by
          rintro rfl
          cases hwider
        simp [hbool]

/-- Arithmetic has a numeric type. -/
theorem isNumeric_of_arithmeticType {op : ArithOp}
    (h : arithmeticType op left right = .ok type) : type.isNumeric = true := by
  unfold arithmeticType at h
  dsimp only at h
  split at h
  · rename_i found hfound
    obtain rfl := Except.ok.inj h
    split at hfound
    · exact Option.some.inj hfound ▸ rfl
    · split at hfound
      · rename_i hr
        exact Option.some.inj hfound ▸ hr.2
      · split at hfound
        · rename_i hl
          exact Option.some.inj hfound ▸ hl.2
        · exact DataType.isNumeric_of_wider? hfound
  · cases h

/-- Arithmetic is never of the null type. -/
theorem arithmeticType_ne_null {op : ArithOp}
    (h : arithmeticType op left right = .ok type) : type ≠ .null :=
  DataType.ne_null_of_isNumeric (isNumeric_of_arithmeticType h)

/-- The sides of arithmetic meet on a numeric type; two nulls are 32-bit integers. -/
theorem arithmeticType_eq_ok_iff {op : ArithOp} :
    arithmeticType op left right = .ok type ↔
      (left = .null ∧ right = .null ∧ type = .int32) ∨
        left.meet? right = some type ∧ type.isNumeric = true := by
  constructor
  · intro h
    have hnumeric := isNumeric_of_arithmeticType h
    unfold arithmeticType at h
    dsimp only at h
    split at h
    · rename_i found hfound
      obtain rfl := Except.ok.inj h
      split at hfound
      · rename_i hnulls
        exact Or.inl ⟨hnulls.1, hnulls.2, (Option.some.inj hfound).symm⟩
      · refine Or.inr ⟨?_, hnumeric⟩
        split at hfound
        · rename_i hleft
          rw [DataType.meet?, if_pos hleft.1, hfound]
        · split at hfound
          · rename_i hright
            rw [DataType.meet?_comm, DataType.meet?, if_pos hright.1, hfound]
          · obtain ⟨-, hleft, hright⟩ := DataType.eq_or_eq_of_wider? hfound
            rw [DataType.meet?_of_isNumeric hleft hright, hfound]
    · cases h
  · rintro (⟨rfl, rfl, rfl⟩ | ⟨hmeet, hnumeric⟩)
    · rfl
    · unfold arithmeticType
      rcases DataType.operands_of_meet? hmeet hnumeric with ⟨rfl, rfl⟩ | ⟨rfl, rfl⟩ | hwider
      · simp [hnumeric, DataType.ne_null_of_isNumeric hnumeric]
      · simp [hnumeric, DataType.ne_null_of_isNumeric hnumeric]
      · obtain ⟨-, hleft, hright⟩ := DataType.eq_or_eq_of_wider? hwider
        simp [DataType.ne_null_of_isNumeric hleft, DataType.ne_null_of_isNumeric hright, hwider]

/-- The sides of a comparison widen to the type on which they meet. -/
theorem comparisonType_widens {op : CompareOp} (h : comparisonType op left right = .ok type) :
    left.WidensTo type ∧ right.WidensTo type :=
  DataType.widensTo_of_meet? (comparisonType_eq_ok_iff.1 h).1

/-- The sides of an arithmetic operation widen to the type on which they meet. -/
theorem arithmeticType_widens {op : ArithOp} (h : arithmeticType op left right = .ok type) :
    left.WidensTo type ∧ right.WidensTo type := by
  rcases arithmeticType_eq_ok_iff.1 h with ⟨rfl, rfl, rfl⟩ | ⟨hmeet, -⟩
  · exact ⟨Or.inl rfl, Or.inl rfl⟩
  · exact DataType.widensTo_of_meet? hmeet

/-- A type joins the types found so far by meeting their common type. -/
theorem commonTypeWith_cons_eq_ok_iff {found next : DataType} {rest : List DataType} :
    commonTypeWith found (next :: rest) = .ok type ↔
      ∃ middle, found.meet? next = some middle ∧ commonTypeWith middle rest = .ok type := by
  unfold DataType.meet?
  rw [commonTypeWith]
  by_cases hnext : next = .null
  · by_cases hfound : found = .null <;> simp [hnext, hfound]
  · by_cases hfound : found = .null
    · simp [hnext, hfound]
    · by_cases hsame : found = next
      · simp [hnext, hsame]
      · cases hwider : found.wider? next <;> simp [hnext, hfound, hsame]

/-! ## Promoted operands -/

/-- Where the sides of a comparison are promoted, so is the type on which they meet. -/
theorem comparisonType_promotes (op : CompareOp) (hl : left.PromotesTo left')
    (hr : right.PromotesTo right') :
    Follows DataType.PromotesTo (comparisonType op left right)
      (comparisonType op left' right') := by
  intro type h
  obtain ⟨hmeet, hop⟩ := comparisonType_eq_ok_iff.1 h
  obtain ⟨wide, hwide, hpromoted⟩ := DataType.meet?_promotes hl hr hmeet
  refine ⟨wide, comparisonType_eq_ok_iff.2 ⟨hwide, fun hbool => hop ?_⟩, hpromoted⟩
  rcases hl with rfl | ⟨rfl, rfl⟩
  · exact hbool
  · cases hbool

/-- Where the sides of arithmetic are promoted, so is its type. -/
theorem arithmeticType_promotes (op : ArithOp) (hl : left.PromotesTo left')
    (hr : right.PromotesTo right') :
    Follows DataType.PromotesTo (arithmeticType op left right)
      (arithmeticType op left' right') := by
  intro type h
  rcases arithmeticType_eq_ok_iff.1 h with ⟨hleft, hright, rfl⟩ | ⟨hmeet, hnumeric⟩
  · refine ⟨.int32, arithmeticType_eq_ok_iff.2 (Or.inl ?_), .refl _⟩
    exact ⟨hl.eq_null_iff.2 hleft, hr.eq_null_iff.2 hright, rfl⟩
  · obtain ⟨wide, hwide, hpromoted⟩ := DataType.meet?_promotes hl hr hmeet
    refine ⟨wide, arithmeticType_eq_ok_iff.2 (Or.inr ⟨hwide, ?_⟩), hpromoted⟩
    rw [hpromoted.isNumeric_eq, hnumeric]

/-- Where types are promoted, so is the type they have in common with one found so far. -/
theorem commonTypeWith_promotes {found found' : DataType} {types wides : List DataType}
    (hfound : found.PromotesTo found') (h : List.Forall₂ DataType.PromotesTo types wides) :
    Follows DataType.PromotesTo (commonTypeWith found types) (commonTypeWith found' wides) := by
  induction h generalizing found found' with
  | nil => exact follows_ok hfound
  | cons hnext _ ih =>
    intro type htype
    obtain ⟨middle, hmeet, hrest⟩ := commonTypeWith_cons_eq_ok_iff.1 htype
    obtain ⟨middle', hmeet', hmiddle⟩ := DataType.meet?_promotes hfound hnext hmeet
    obtain ⟨wide, hwide, hpromoted⟩ := ih hmiddle type hrest
    exact ⟨wide, commonTypeWith_cons_eq_ok_iff.2 ⟨middle', hmeet', hwide⟩, hpromoted⟩

/-- Where types are promoted, so is their common type. -/
theorem commonType_promotes {types wides : List DataType}
    (h : List.Forall₂ DataType.PromotesTo types wides) :
    Follows DataType.PromotesTo (commonType types) (commonType wides) :=
  commonTypeWith_promotes (.refl .null) h

end StreamPlan
