import StreamPlan.Expr.Evaluate
import StreamPlan.Function.Builtin
import StreamPlan.Proofs.Expr.MeetingType
import StreamPlan.Proofs.Expr.TypedForm

/-!
# Comparisons with their sides exchanged

A comparison means the same with its sides exchanged and the order turned around.  Its sides meet
on one type either way, at most one of them is cast, and values are ordered both ways round.  But
truth values are refused as operands of an order only where the left side is one: an untyped null
on the left takes the type of the other side before that is asked.

Main results:

- `CompareOp.onValues_flip`: two values compared both ways round.
- `comparisonType_flip_iff`: the types that are compared one way round only.
- `Expr.mirrors_iff`: when a comparison and its mirror image agree.
- `exists_unmirrored`: an order of null and a truth value.
-/

namespace StreamPlan

/-! ## Operators and types -/

/-- The mirror image of a comparison asks for equality when the comparison does. -/
@[simp] theorem CompareOp.isEquality_flip (op : CompareOp) :
    op.flip.isEquality = op.isEquality := by
  cases op <;> rfl

/-- Two values compared both ways round. -/
theorem CompareOp.onValues_flip (op : CompareOp) (a b : Value) :
    op.flip.onValues b a = op.onValues a b := by
  unfold onValues
  rw [Value.compare?_swap a b]
  cases a.compare? b with
  | none => rfl
  | some order => exact congrArg Value.boolean (op.holds_flip order)

/-- A truth value meets null and truth values. -/
theorem DataType.eq_null_or_boolean_of_meet? {other type : DataType}
    (h : DataType.boolean.meet? other = some type) : other = .null ∨ other = .boolean := by
  have hother : DataType.boolean ≠ .null := by decide
  rw [meet?, if_neg hother] at h
  split at h
  · rename_i hsame
    exact hsame.imp_right Eq.symm
  · cases h

/-- One of two types is null and the other that of truth values. -/
def DataType.NullAndBoolean (a b : DataType) : Prop :=
  (a = .null ∧ b = .boolean) ∨ (a = .boolean ∧ b = .null)

instance (a b : DataType) : Decidable (DataType.NullAndBoolean a b) :=
  inferInstanceAs (Decidable (_ ∨ _))

variable {op : CompareOp} {left right type : DataType}

/-- The types of two sides are compared both ways round or not at all, unless an order of null and
a truth value is asked for. -/
theorem comparisonType_flip_iff :
    ((∃ type, comparisonType op left right = .ok type) ↔
        ∃ type, comparisonType op.flip right left = .ok type) ↔
      ¬ (op.isEquality = false ∧ left.NullAndBoolean right) := by
  simp only [comparisonType_eq_ok_iff, DataType.meet?_comm right left, CompareOp.isEquality_flip,
    exists_and_right]
  constructor
  · rintro hsame ⟨hop, ⟨rfl, rfl⟩ | ⟨rfl, rfl⟩⟩
    · have hboth := (hsame.1 ⟨⟨_, rfl⟩, nofun⟩).2 rfl
      rw [hop] at hboth
      cases hboth
    · have hboth := (hsame.2 ⟨⟨_, rfl⟩, nofun⟩).2 rfl
      rw [hop] at hboth
      cases hboth
  · intro hnot
    refine and_congr_right fun ⟨type, hmeet⟩ => ?_
    cases hop : op.isEquality with
    | true => simp
    | false =>
      -- For an order the two conditions say which side is no truth value.
      constructor
      · rintro hleft rfl
        rw [DataType.meet?_comm] at hmeet
        rcases DataType.eq_null_or_boolean_of_meet? hmeet with rfl | rfl
        · exact absurd ⟨hop, Or.inl ⟨rfl, rfl⟩⟩ hnot
        · exact hleft rfl
      · rintro hright rfl
        rcases DataType.eq_null_or_boolean_of_meet? hmeet with rfl | rfl
        · exact absurd ⟨hop, Or.inr ⟨rfl, rfl⟩⟩ hnot
        · exact hright rfl

/-! ## Typed forms -/

namespace TypedExpr

/-- Of two sides at most one is cast to the type on which they meet. -/
theorem castTo_eq_or_of_meet? {left right : TypedExpr}
    (h : left.dataType.meet? right.dataType = some type) :
    left.castTo type = left ∨ right.castTo type = right := by
  have hside : type = left.dataType ∨ type = right.dataType := by
    unfold DataType.meet? at h
    split at h
    · exact Or.inr (Option.some.inj h).symm
    · split at h
      · exact Or.inl (Option.some.inj h).symm
      · exact (DataType.eq_or_eq_of_wider? h).1
  rcases hside with hleft | hright
  · exact Or.inl (if_pos (Or.inl hleft.symm))
  · exact Or.inr (if_pos (Or.inl hright.symm))

/-- A comparison and its mirror image have one outcome on a row on which one side has a value. -/
theorem evaluate_compare_flip {row : Row} {left right : TypedExpr}
    (h : (∃ a, left.evaluate row = .ok a) ∨ ∃ b, right.evaluate row = .ok b) :
    (compare op.flip right left).evaluate row = (compare op left right).evaluate row := by
  rw [evaluate_compare, evaluate_compare]
  -- An error of the other side comes through wherever that side stands.
  rcases h with ⟨a, ha⟩ | ⟨b, hb⟩
  · rw [ha]
    cases right.evaluate row with
    | error e => rfl
    | ok b => exact congrArg Except.ok (op.onValues_flip a b)
  · rw [hb]
    cases left.evaluate row with
    | error e => rfl
    | ok a => exact congrArg Except.ok (op.onValues_flip a b)

end TypedExpr

/-! ## Expressions -/

namespace Expr

variable {schema : Schema} {functions : Registry} {l r : Expr}

/-- A comparison compiles when its sides do and their types are compared. -/
theorem compile_compare_eq_ok_iff {e : CompiledExpr} :
    (compare op l r).compile schema functions = .ok e ↔
      ∃ left right type, l.compile schema functions = .ok left ∧
        r.compile schema functions = .ok right ∧
        comparisonType op left.dataType right.dataType = .ok type ∧
        e = ⟨.compare op l r, schema,
          .compare op (left.typed.castTo type) (right.typed.castTo type)⟩ := by
  rw [compile_eq_ok_iff]
  constructor
  · rintro ⟨t, ht, rfl⟩
    rw [typed_compare] at ht
    obtain ⟨left, hleft, ht⟩ := bind_eq_ok_iff.1 ht
    obtain ⟨right, hright, ht⟩ := bind_eq_ok_iff.1 ht
    obtain ⟨type, htype, heq⟩ := bind_eq_ok_iff.1 ht
    exact ⟨⟨l, schema, left⟩, ⟨r, schema, right⟩, type, compile_eq_ok_iff.2 ⟨left, hleft, rfl⟩,
      compile_eq_ok_iff.2 ⟨right, hright, rfl⟩, htype, Except.ok.inj heq ▸ rfl⟩
  · rintro ⟨left, right, type, hleft, hright, htype, rfl⟩
    obtain ⟨tl, htl, rfl⟩ := compile_eq_ok_iff.1 hleft
    obtain ⟨tr, htr, rfl⟩ := compile_eq_ok_iff.1 hright
    refine ⟨_, ?_, rfl⟩
    rw [typed_compare]
    exact bind_eq_ok_iff.2 ⟨tl, htl, bind_eq_ok_iff.2 ⟨tr, htr, bind_eq_ok_iff.2 ⟨type, htype, rfl⟩⟩⟩

/-- A comparison and its mirror image both compile or neither does, and on every row on which both
sides have a value they have one outcome. -/
structure Mirrors (schema : Schema) (functions : Registry) (op : CompareOp) (l r : Expr) :
    Prop where
  compiles : (∃ e, (compare op l r).compile schema functions = .ok e) ↔
    ∃ e, (compare op.flip r l).compile schema functions = .ok e
  evaluates : ∀ e mirrored left right,
    (compare op l r).compile schema functions = .ok e →
    (compare op.flip r l).compile schema functions = .ok mirrored →
    l.compile schema functions = .ok left → r.compile schema functions = .ok right →
    ∀ row a b, left.evaluate row = .ok a → right.evaluate row = .ok b →
      mirrored.evaluate row = e.evaluate row

/-- An order is asked for of two sides of which one is an untyped null and the other a truth
value. -/
def OrdersNullAndBoolean (schema : Schema) (functions : Registry) (op : CompareOp) (l r : Expr) :
    Prop :=
  op.isEquality = false ∧
    ∃ left right, l.compile schema functions = .ok left ∧
      r.compile schema functions = .ok right ∧ left.dataType.NullAndBoolean right.dataType

/-- A comparison of sides that compile compiles when their types are compared. -/
theorem compile_compare_of_sides {left right e : CompiledExpr}
    (hleft : l.compile schema functions = .ok left)
    (hright : r.compile schema functions = .ok right) :
    (compare op l r).compile schema functions = .ok e ↔
      ∃ type, comparisonType op left.dataType right.dataType = .ok type ∧
        e = ⟨.compare op l r, schema,
          .compare op (left.typed.castTo type) (right.typed.castTo type)⟩ := by
  rw [compile_compare_eq_ok_iff]
  constructor
  · rintro ⟨left', right', type, hleft', hright', htype, rfl⟩
    obtain rfl := Except.ok.inj (hleft.symm.trans hleft')
    obtain rfl := Except.ok.inj (hright.symm.trans hright')
    exact ⟨type, htype, rfl⟩
  · rintro ⟨type, htype, rfl⟩
    exact ⟨left, right, type, hleft, hright, htype, rfl⟩

/-- Sides that compile are compared when their types are. -/
theorem exists_compile_compare_iff {left right : CompiledExpr}
    (hleft : l.compile schema functions = .ok left)
    (hright : r.compile schema functions = .ok right) :
    (∃ e, (compare op l r).compile schema functions = .ok e) ↔
      ∃ type, comparisonType op left.dataType right.dataType = .ok type := by
  simp only [compile_compare_of_sides hleft hright]
  constructor
  · rintro ⟨e, type, htype, -⟩
    exact ⟨type, htype⟩
  · rintro ⟨type, htype⟩
    exact ⟨_, type, htype, rfl⟩

/-- Where a comparison and its mirror image both compile, they have one outcome on every row on
which both sides have a value: at most one of the sides is cast. -/
theorem evaluate_mirrored {e mirrored left right : CompiledExpr}
    (he : (compare op l r).compile schema functions = .ok e)
    (hmirrored : (compare op.flip r l).compile schema functions = .ok mirrored)
    (hleft : l.compile schema functions = .ok left)
    (hright : r.compile schema functions = .ok right) {row : Row} {a b : Value}
    (ha : left.evaluate row = .ok a) (hb : right.evaluate row = .ok b) :
    mirrored.evaluate row = e.evaluate row := by
  obtain ⟨type, htype, rfl⟩ := (compile_compare_of_sides hleft hright).1 he
  obtain ⟨type', htype', rfl⟩ := (compile_compare_of_sides hright hleft).1 hmirrored
  obtain ⟨hmeet, -⟩ := comparisonType_eq_ok_iff.1 htype
  obtain ⟨hmeet', -⟩ := comparisonType_eq_ok_iff.1 htype'
  rw [DataType.meet?_comm, hmeet] at hmeet'
  obtain rfl := Option.some.inj hmeet'
  apply TypedExpr.evaluate_compare_flip
  rcases TypedExpr.castTo_eq_or_of_meet? hmeet with hsame | hsame
  · exact Or.inl ⟨a, hsame.symm ▸ ha⟩
  · exact Or.inr ⟨b, hsame.symm ▸ hb⟩

/-- A comparison and its mirror image agree exactly when they are no order of an untyped null and
a truth value. -/
theorem mirrors_iff {schema : Schema} {functions : Registry} {op : CompareOp} {l r : Expr} :
    Mirrors schema functions op l r ↔ ¬ OrdersNullAndBoolean schema functions op l r := by
  constructor
  · rintro hmirrors ⟨hop, left, right, hleft, hright, hpair⟩
    have hcompiles := hmirrors.compiles
    rw [exists_compile_compare_iff hleft hright, exists_compile_compare_iff hright hleft] at hcompiles
    exact comparisonType_flip_iff.1 hcompiles ⟨hop, hpair⟩
  · intro hnot
    refine ⟨?_, fun e mirrored left right he hm hl hr row a b => evaluate_mirrored he hm hl hr⟩
    by_cases hsides : ∃ left right, l.compile schema functions = .ok left ∧
        r.compile schema functions = .ok right
    · obtain ⟨left, right, hleft, hright⟩ := hsides
      rw [exists_compile_compare_iff hleft hright, exists_compile_compare_iff hright hleft]
      exact comparisonType_flip_iff.2 fun ⟨hop, hpair⟩ =>
        hnot ⟨hop, left, right, hleft, hright, hpair⟩
    · apply iff_of_false
      · rintro ⟨e, he⟩
        obtain ⟨left, right, -, hleft, hright, -⟩ := compile_compare_eq_ok_iff.1 he
        exact hsides ⟨left, right, hleft, hright⟩
      · rintro ⟨e, he⟩
        obtain ⟨right, left, -, hright, hleft, -⟩ := compile_compare_eq_ok_iff.1 he
        exact hsides ⟨left, right, hleft, hright⟩

end Expr

/-- A schema of bills: the number of a line, its amount, and whether it was paid. -/
def bills : Schema := ⟨[⟨"LINE", .int32⟩, ⟨"AMOUNT", .int64⟩, ⟨"PAID", .boolean⟩]⟩

/-- The number of a line below its amount, and the amount above it. -/
theorem Expr.mirrors_iff_lineBelowAmount :
    ∃ e mirrored,
      (compare .lt (.column ⟨none, "LINE"⟩) (.column ⟨none, "AMOUNT"⟩)).compile bills .builtins =
          .ok e ∧
        (compare .gt (.column ⟨none, "AMOUNT"⟩) (.column ⟨none, "LINE"⟩)).compile bills
          .builtins = .ok mirrored ∧
        e.evaluate ⟨[.int32 2, .int64 30, .null]⟩ = .ok (.boolean true) ∧
        mirrored.evaluate ⟨[.int32 2, .int64 30, .null]⟩ = .ok (.boolean true) := by
  have hmirrors : Mirrors bills .builtins .lt (.column ⟨none, "LINE"⟩)
      (.column ⟨none, "AMOUNT"⟩) := by
    apply mirrors_iff.2
    rintro ⟨-, left, right, hleft, hright, hpair⟩
    obtain rfl := Except.ok.inj hleft
    obtain rfl := Except.ok.inj hright
    exact absurd hpair (by decide)
  obtain ⟨e, he, hvalue⟩ : ∃ e,
      (compare .lt (.column ⟨none, "LINE"⟩) (.column ⟨none, "AMOUNT"⟩)).compile bills .builtins =
        .ok e ∧ e.evaluate ⟨[.int32 2, .int64 30, .null]⟩ = .ok (.boolean true) :=
    ⟨_, rfl, rfl⟩
  obtain ⟨mirrored, hmirrored⟩ := hmirrors.compiles.1 ⟨e, he⟩
  refine ⟨e, mirrored, he, hmirrored, hvalue, ?_⟩
  exact (hmirrors.evaluates e mirrored _ _ he hmirrored rfl rfl _ _ _ rfl rfl).trans hvalue

/-- An untyped null on the left is ordered with a truth value, and on the right it is refused. -/
theorem exists_unmirrored :
    (∃ e, (Expr.compare .lt (.literal .null) (.column ⟨none, "PAID"⟩)).compile bills .builtins =
        .ok e) ∧
      (Expr.compare .gt (.column ⟨none, "PAID"⟩) (.literal .null)).compile bills .builtins =
        .error (.typing .booleanOrder) ∧
      ¬ Expr.Mirrors bills .builtins .lt (.literal .null) (.column ⟨none, "PAID"⟩) := by
  refine ⟨⟨_, rfl⟩, rfl, fun hmirrors => ?_⟩
  obtain ⟨mirrored, hmirrored⟩ := hmirrors.compiles.1 ⟨_, rfl⟩
  cases hmirrored

end StreamPlan
