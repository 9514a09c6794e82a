import StreamPlan.Proofs.Expr.ErrorKinds
import StreamPlan.Proofs.Expr.Promotion

/-!
# Integer arithmetic

Arithmetic on integers is computed with 64 bits and, between 32-bit integers, narrowed
afterwards.  It never wraps: what it gives is the exact result, and what does not fit is an
execution error.  One result is refused although it fits.  A remainder is taken together with
its quotient, and the quotient of the least 64-bit integer by minus one does not fit, while their
remainder is zero.  The quotient of the least 32-bit integer by minus one does fit 64 bits.

Main results:

- `ArithOp.exactResult?`: the exact result.
- `ArithOp.onInt64_eq_ok_iff`, `ArithOp.onInt32_eq_ok_iff`: arithmetic of either width.
- `ArithOp.quotientFits_iff`: the one remainder whose quotient does not fit.
- `Expr.arith_exact_iff`: expressions whose operands are integers.
-/

namespace StreamPlan

/-! ## Narrowing -/

/-- A result is narrowed to 64 bits when it is a 64-bit integer. -/
theorem narrow64_eq_ok_iff {n : Int} {v : Int64} : narrow64 n = .ok v ↔ v.toInt = n := by
  rw [← Word.int64?_eq_some_iff]
  unfold narrow64
  cases Word.int64? n <;> simp

/-- A result is narrowed to 32 bits when it is a 32-bit integer. -/
theorem narrow32_eq_ok_iff {n : Int} {v : Int32} : narrow32 n = .ok v ↔ v.toInt = n := by
  rw [← Word.int32?_eq_some_iff]
  unfold narrow32
  cases Word.int32? n <;> simp

/-- Every divisor but zero passes. -/
theorem requireDivisor_eq_ok_iff {n : Int} {u : Unit} : requireDivisor n = .ok u ↔ n ≠ 0 := by
  unfold requireDivisor
  by_cases hn : n = 0 <;> simp [hn]

/-- The integers from the least to the greatest one of 64 bits are 64-bit integers. -/
theorem exists_int64_iff {n : Int} :
    (∃ v : Int64, v.toInt = n) ↔ -0x8000000000000000 ≤ n ∧ n < 0x8000000000000000 := by
  constructor
  · rintro ⟨v, rfl⟩
    exact ⟨v.le_toInt, v.toInt_lt⟩
  · intro h
    exact ⟨Int64.ofInt n, Int64.toInt_ofInt_of_le h.1 h.2⟩

namespace ArithOp

variable {op : ArithOp}

/-! ## Exact results -/

/-- The exact result: division truncates toward zero, a remainder has the sign of the dividend,
and neither has a divisor of zero. -/
def exactResult? (op : ArithOp) (a b : Int) : Option Int :=
  match op with
  | plus => some (a + b)
  | minus => some (a - b)
  | times => some (a * b)
  | divide => if b = 0 then none else some (a.tdiv b)
  | modulo => if b = 0 then none else some (a.tmod b)

/-- If the operation is a remainder, its quotient fits 64 bits. -/
def QuotientFits (op : ArithOp) (a b : Int) : Prop :=
  op = .modulo → ∃ quotient : Int64, quotient.toInt = a.tdiv b

/-- The remainder of the least 64-bit integer by minus one. -/
def IsLeastByMinusOne (op : ArithOp) (a b : Int) : Prop :=
  op = .modulo ∧ a = -0x8000000000000000 ∧ b = -1

instance (op : ArithOp) (a b : Int) : Decidable (op.IsLeastByMinusOne a b) :=
  inferInstanceAs (Decidable (_ ∧ _))

/-- That remainder is zero. -/
theorem exactResult?_of_isLeastByMinusOne {a b : Int} (h : op.IsLeastByMinusOne a b) :
    op.exactResult? a b = some 0 := by
  obtain ⟨rfl, rfl, rfl⟩ := h
  decide

/-- A quotient is no greater than its dividend and, but by one and minus one, at most half as
great. -/
theorem tdiv_fits_iff {a b : Int} (hlow : -0x8000000000000000 ≤ a)
    (hhigh : a < 0x8000000000000000) :
    (∃ quotient : Int64, quotient.toInt = a.tdiv b) ↔
      ¬ (a = -0x8000000000000000 ∧ b = -1) := by
  rw [exists_int64_iff]
  by_cases hminus : b = -1
  · subst hminus
    rw [Int.tdiv_neg, Int.tdiv_one]
    omega
  · refine iff_of_true ?_ fun hcorner => hminus hcorner.2
    by_cases hsmall : b = 0 ∨ b = 1
    · rcases hsmall with rfl | rfl
      · rw [Int.tdiv_zero]
        decide
      · rw [Int.tdiv_one]
        exact ⟨hlow, hhigh⟩
    · have hhalf : (a.tdiv b).natAbs ≤ a.natAbs / 2 := by
        rw [Int.natAbs_tdiv]
        exact Nat.div_le_div_left (by omega) (by decide)
      omega

/-- The one remainder of 64-bit integers whose quotient does not fit. -/
theorem quotientFits_iff {a b : Int} (hlow : -0x8000000000000000 ≤ a)
    (hhigh : a < 0x8000000000000000) :
    op.QuotientFits a b ↔ ¬ op.IsLeastByMinusOne a b := by
  unfold QuotientFits IsLeastByMinusOne
  rw [not_and]
  exact forall_congr' fun _ => tdiv_fits_iff hlow hhigh

/-! ## Words -/

/-- Arithmetic with 64 bits gives the exact result when it and the quotient of a remainder
fit. -/
theorem onInt64_eq_ok_iff {a b : Int} {v : Int64} :
    op.onInt64 a b = .ok v ↔ op.exactResult? a b = some v.toInt ∧ op.QuotientFits a b := by
  cases op with
  | plus | minus | times =>
    rw [and_iff_left (by rintro ⟨⟩), exactResult?, Option.some.injEq]
    exact narrow64_eq_ok_iff.trans eq_comm
  | divide =>
    change (requireDivisor b >>= fun _ => narrow64 (a.tdiv b)) = .ok v ↔ _
    rw [and_iff_left (by rintro ⟨⟩), exactResult?, bind_eq_ok_iff]
    simp only [requireDivisor_eq_ok_iff, narrow64_eq_ok_iff]
    by_cases hb : b = 0 <;> simp [hb, eq_comm]
  | modulo =>
    change (requireDivisor b >>= fun _ => narrow64 (a.tdiv b) >>= fun _ => narrow64 (a.tmod b)) =
      .ok v ↔ _
    rw [bind_eq_ok_iff]
    simp only [bind_eq_ok_iff, requireDivisor_eq_ok_iff, narrow64_eq_ok_iff, exactResult?,
      QuotientFits, forall_const, exists_and_right]
    by_cases hb : b = 0 <;> simp [hb, eq_comm, and_comm]

/-- The quotient of a 32-bit integer fits 64 bits, as the least of these is below it. -/
theorem quotientFits_int32 (a : Int32) (b : Int) : op.QuotientFits a.toInt b := by
  have hlow := a.le_toInt
  have hhigh := a.toInt_lt
  rw [quotientFits_iff (by omega) (by omega)]
  rintro ⟨-, hleast, -⟩
  omega

/-- Arithmetic on 32-bit integers gives the exact result when it fits 32 bits. -/
theorem onInt32_eq_ok_iff {a b v : Int32} :
    op.onInt32 a.toInt b.toInt = .ok v ↔ op.exactResult? a.toInt b.toInt = some v.toInt := by
  unfold onInt32
  simp only [bind_eq_ok_iff, onInt64_eq_ok_iff, narrow32_eq_ok_iff,
    and_iff_left (quotientFits_int32 a b.toInt)]
  constructor
  · rintro ⟨wide, hwide, hnarrow⟩
    rw [hwide, hnarrow]
  · intro hexact
    exact ⟨v.toInt64, by rw [hexact, Int32.toInt_toInt64], (Int32.toInt_toInt64 v).symm⟩

end ArithOp

/-! ## Values -/

namespace Value

/-- The values of the type of 32-bit integers. -/
theorem ofInteger?_int32_eq_some_iff {n : Int} {v : Value} :
    ofInteger? .int32 n = some v ↔ ∃ k : Int32, k.toInt = n ∧ int32 k = v := by
  change (Word.int32? n).map int32 = some v ↔ _
  simp only [Option.map_eq_some_iff, Word.int32?_eq_some_iff]

/-- The values of the type of 64-bit integers. -/
theorem ofInteger?_int64_eq_some_iff {n : Int} {v : Value} :
    ofInteger? .int64 n = some v ↔ ∃ k : Int64, k.toInt = n ∧ int64 k = v := by
  change (Word.int64? n).map int64 = some v ↔ _
  simp only [Option.map_eq_some_iff, Word.int64?_eq_some_iff]

/-- A value that holds an integer is that integer in its type. -/
theorem ofInteger?_of_toInt? {n : Int} {v : Value} (h : v.toInt? = some n) :
    ofInteger? v.dataType n = some v := by
  cases v with
  | int32 k => exact ofInteger?_int32_eq_some_iff.2 ⟨k, Option.some.inj h, rfl⟩
  | int64 k => exact ofInteger?_int64_eq_some_iff.2 ⟨k, Option.some.inj h, rfl⟩
  | null | boolean | float64 | utf8 | time => cases h

/-- Zero is a value of both types. -/
theorem exists_zero {type : DataType} (h : type = .int32 ∨ type = .int64) :
    ∃ v, ofInteger? type 0 = some v := by
  rcases h with rfl | rfl
  · exact ⟨int32 0, by decide⟩
  · exact ⟨int64 0, by decide⟩

end Value

/-- Arithmetic on two integers of one type gives the exact result when it fits the type and the
quotient of a remainder fits. -/
theorem ArithOp.onValues_eq_ok_iff {op : ArithOp} {type : DataType} {a b : Int} {x y v : Value}
    (hx : Value.ofInteger? type a = some x) (hy : Value.ofInteger? type b = some y) :
    op.onValues x y = .ok v ↔
      (op.exactResult? a b).bind (Value.ofInteger? type) = some v ∧ op.QuotientFits a b := by
  rw [Option.bind_eq_some_iff]
  by_cases hnarrow : type = .int32
  · subst hnarrow
    obtain ⟨m, rfl, rfl⟩ := Value.ofInteger?_int32_eq_some_iff.1 hx
    obtain ⟨n, rfl, rfl⟩ := Value.ofInteger?_int32_eq_some_iff.1 hy
    change (op.onInt32 m.toInt n.toInt).map .int32 = .ok v ↔ _
    simp only [map_eq_ok_iff, onInt32_eq_ok_iff, Value.ofInteger?_int32_eq_some_iff,
      and_iff_left (quotientFits_int32 m n.toInt)]
    constructor
    · rintro ⟨k, hexact, rfl⟩
      exact ⟨_, hexact, k, rfl, rfl⟩
    · rintro ⟨_, hexact, k, rfl, rfl⟩
      exact ⟨k, hexact, rfl⟩
  · obtain rfl : type = .int64 := by
      unfold Value.ofInteger? at hx
      split at hx
      · exact absurd rfl hnarrow
      · rfl
      · cases hx
    obtain ⟨m, rfl, rfl⟩ := Value.ofInteger?_int64_eq_some_iff.1 hx
    obtain ⟨n, rfl, rfl⟩ := Value.ofInteger?_int64_eq_some_iff.1 hy
    change (op.onInt64 m.toInt n.toInt).map .int64 = .ok v ↔ _
    simp only [map_eq_ok_iff, onInt64_eq_ok_iff, Value.ofInteger?_int64_eq_some_iff]
    constructor
    · rintro ⟨k, ⟨hexact, hfits⟩, rfl⟩
      exact ⟨⟨_, hexact, k, rfl, rfl⟩, hfits⟩
    · rintro ⟨⟨_, hexact, k, rfl, rfl⟩, hfits⟩
      exact ⟨k, ⟨hexact, hfits⟩, rfl⟩

/-! ## Operands -/

/-- On a row the expression has an integer of its type. -/
def CompiledExpr.HoldsInteger (e : CompiledExpr) (row : Row) (n : Int) : Prop :=
  ∃ v, e.evaluate row = .ok v ∧ v.dataType = e.dataType ∧ v.toInt? = some n

namespace CompiledExpr.HoldsInteger

variable {e : CompiledExpr} {row : Row} {n : Int}

/-- Its type is one of integers. -/
theorem isInteger (h : e.HoldsInteger row n) : e.dataType = .int32 ∨ e.dataType = .int64 := by
  obtain ⟨v, -, htype, hn⟩ := h
  rw [← htype]
  cases v with
  | int32 => exact Or.inl rfl
  | int64 => exact Or.inr rfl
  | null | boolean | float64 | utf8 | time => cases hn

/-- The integer fits the type. -/
theorem inRange (h : e.HoldsInteger row n) :
    -0x8000000000000000 ≤ n ∧ n < 0x8000000000000000 := by
  obtain ⟨v, -, -, hn⟩ := h
  rw [← exists_int64_iff]
  cases v with
  | int32 k => exact ⟨k.toInt64, (Int32.toInt_toInt64 k).trans (Option.some.inj hn)⟩
  | int64 k => exact ⟨k, Option.some.inj hn⟩
  | null | boolean | float64 | utf8 | time => cases hn

/-- Cast to a type that is as wide, the expression has the integer as a value of that type. -/
theorem castTo (h : e.HoldsInteger row n) {type : DataType} (hwide : e.dataType.PromotesTo type) :
    ∃ w, (e.typed.castTo type).evaluate row = .ok w ∧ Value.ofInteger? type n = some w := by
  have hinteger := h.isInteger
  obtain ⟨v, hv, htype, hn⟩ := h
  have hfits : ∀ w, e.typed.evaluate row = .ok w → w.Fits e.typed.dataType := by
    intro w hw
    obtain rfl := Except.ok.inj (hv.symm.trans hw)
    exact Or.inr htype
  have hnull : type ≠ .null := by
    rintro rfl
    rw [hwide.eq_null_iff.1 rfl] at hinteger
    exact absurd hinteger (by decide)
  have hvalue : Value.ofInteger? e.dataType n = some v := htype ▸ Value.ofInteger?_of_toInt? hn
  refine ⟨v.promote type, ?_, Value.ofInteger?_promote hwide hvalue⟩
  have hcast : v.cast type = .ok (v.promote type) := by
    have hpromoted : (v.promote e.dataType).cast type = .ok (v.promote type) :=
      Value.cast_promote hwide (Value.cast_of_dataType_eq htype)
    rwa [Value.promote_of_fits (Or.inr htype)] at hpromoted
  rw [TypedExpr.evaluate_castTo hnull hfits]
  exact bind_eq_ok_iff.2 ⟨v, hv, hcast⟩

end CompiledExpr.HoldsInteger

/-- An expression of a type of integers has an integer on every row that fits its schema and on
which it has a value other than null. -/
theorem CompiledExpr.exists_holdsInteger {schema : Schema} {functions : Registry}
    (hfunctions : functions.KeepsTypes) {source : Expr} {e : CompiledExpr}
    (hcompiled : source.compile schema functions = .ok e)
    (htype : e.dataType = .int32 ∨ e.dataType = .int64) {row : Row} (hrow : row.Fits schema)
    {v : Value} (hvalue : e.evaluate row = .ok v) (hnull : v ≠ .null) :
    ∃ n, v.toInt? = some n ∧ e.HoldsInteger row n := by
  obtain ⟨t, ht, rfl⟩ := Expr.compile_eq_ok_iff.1 hcompiled
  have hfits : v.dataType = t.dataType :=
    (Expr.sound_typed hfunctions source t ht row hrow v hvalue).resolve_left hnull
  have hinteger : v.dataType = .int32 ∨ v.dataType = .int64 := hfits ▸ htype
  obtain ⟨n, hn⟩ : ∃ n, v.toInt? = some n := by
    cases v with
    | int32 k => exact ⟨k.toInt, rfl⟩
    | int64 k => exact ⟨k.toInt, rfl⟩
    | null | boolean | float64 | utf8 | time => exact hinteger.elim nofun nofun
  exact ⟨n, hn, v, hvalue, hfits, hn⟩

/-- Two types of integers meet on the wider one, to which both are promoted. -/
theorem DataType.promotes_of_integers {a b : DataType} (ha : a = .int32 ∨ a = .int64)
    (hb : b = .int32 ∨ b = .int64) :
    ∃ type, a.wider? b = some type ∧ a.PromotesTo type ∧ b.PromotesTo type ∧
      (type = .int32 ∨ type = .int64) := by
  rcases ha with rfl | rfl
  · rcases hb with rfl | rfl
    · exact ⟨.int32, by decide⟩
    · exact ⟨.int64, by decide⟩
  · rcases hb with rfl | rfl
    · exact ⟨.int64, by decide⟩
    · exact ⟨.int64, by decide⟩

/-! ## Expressions -/

/-- An outcome of integer arithmetic is exact: it is the exact result, as a value of the type,
where there is one that fits, and an execution error otherwise. -/
structure ArithOp.IsExact (op : ArithOp) (type : DataType) (a b : Int)
    (outcome : Except Error Value) : Prop where
  value : ∀ v, outcome = .ok v ↔ (op.exactResult? a b).bind (Value.ofInteger? type) = some v
  fails : FailsAs .execution outcome

/-- Arithmetic on two operands that have integers on a row is typed with the wider of their
types.  It fails with execution errors only, and it gives the exact result wherever it fits, but
for the remainder of the least 64-bit integer by minus one.  Where that is not asked for, and only
there, it is exact. -/
theorem Expr.arith_exact_iff {schema : Schema} {functions : Registry} {l r : Expr}
    {left right : CompiledExpr} (hl : l.compile schema functions = .ok left)
    (hr : r.compile schema functions = .ok right) {row : Row} {a b : Int}
    (ha : left.HoldsInteger row a) (hb : right.HoldsInteger row b) (op : ArithOp) :
    ∃ e, (Expr.arith op l r).compile schema functions = .ok e ∧
      left.dataType.wider? right.dataType = some e.dataType ∧
      FailsAs .execution (e.evaluate row) ∧
      (∀ v, e.evaluate row = .ok v ↔
        (op.exactResult? a b).bind (Value.ofInteger? e.dataType) = some v ∧
          ¬ op.IsLeastByMinusOne a b) ∧
      (op.IsExact e.dataType a b (e.evaluate row) ↔ ¬ op.IsLeastByMinusOne a b) := by
  obtain ⟨tl, htl, rfl⟩ := Expr.compile_eq_ok_iff.1 hl
  obtain ⟨tr, htr, rfl⟩ := Expr.compile_eq_ok_iff.1 hr
  obtain ⟨type, hwider, hleft, hright, hinteger⟩ :=
    DataType.promotes_of_integers ha.isInteger hb.isInteger
  obtain ⟨x, hx, hxa⟩ := ha.castTo hleft
  obtain ⟨y, hy, hyb⟩ := hb.castTo hright
  -- The operands meet on the wider type, and neither cast fails.
  have htyped : (Expr.arith op l r).typed schema functions =
      .ok (.arith op (tl.castTo type) (tr.castTo type) type) := by
    obtain ⟨hnumeric, hnumericLeft, hnumericRight⟩ := DataType.eq_or_eq_of_wider? hwider
    have hmeet : tl.dataType.meet? tr.dataType = some type :=
      (DataType.meet?_of_isNumeric hnumericLeft hnumericRight).trans hwider
    rw [typed_arith]
    refine bind_eq_ok_iff.2 ⟨tl, htl, bind_eq_ok_iff.2 ⟨tr, htr, ?_⟩⟩
    refine bind_eq_ok_iff.2 ⟨type, arithmeticType_eq_ok_iff.2 (Or.inr ?_), rfl⟩
    exact ⟨hmeet, DataType.isNumeric_of_wider? hwider⟩
  have hvalue : ∀ v,
      (TypedExpr.arith op (tl.castTo type) (tr.castTo type) type).evaluate row = .ok v ↔
        (op.exactResult? a b).bind (Value.ofInteger? type) = some v ∧
          ¬ op.IsLeastByMinusOne a b := by
    intro v
    rw [TypedExpr.evaluate_arith, hx, hy,
      ← ArithOp.quotientFits_iff ha.inRange.1 ha.inRange.2]
    exact ArithOp.onValues_eq_ok_iff hxa hyb
  have hfails := TypedExpr.failsAs_evaluate row (.arith op (tl.castTo type) (tr.castTo type) type)
  refine ⟨_, Expr.compile_eq_ok_iff.2 ⟨_, htyped, rfl⟩, hwider, hfails, hvalue, ?_⟩
  constructor
  · intro hexact hcorner
    obtain ⟨v, hzero⟩ := Value.exists_zero hinteger
    have hresult : (op.exactResult? a b).bind (Value.ofInteger? type) = some v := by
      rw [ArithOp.exactResult?_of_isLeastByMinusOne hcorner, Option.bind_some, hzero]
    exact ((hvalue v).1 ((hexact.value v).2 hresult)).2 hcorner
  · intro hcorner
    exact ⟨fun v => (hvalue v).trans (and_iff_left hcorner), hfails⟩

/-- A wide column `W` and a narrow column `N`. -/
def wideAndNarrow : Schema := ⟨[⟨"W", .int64⟩, ⟨"N", .int32⟩]⟩

/-- The expression that reads a column. -/
def columnNamed (name : String) : Expr := .column ⟨none, name⟩

/-- Minus seven divided by two is minus three, and the remainder is minus one, as 64-bit
integers. -/
theorem Expr.arith_exact_iff_minusSevenByTwo :
    ∃ left right quotient remainder,
      (columnNamed "W").compile wideAndNarrow .builtins = .ok left ∧
        (columnNamed "N").compile wideAndNarrow .builtins = .ok right ∧
        left.HoldsInteger ⟨[.int64 (-7), .int32 2]⟩ (-7) ∧
        right.HoldsInteger ⟨[.int64 (-7), .int32 2]⟩ 2 ∧
        (arith .divide (columnNamed "W") (columnNamed "N")).compile wideAndNarrow .builtins =
          .ok quotient ∧
        (arith .modulo (columnNamed "W") (columnNamed "N")).compile wideAndNarrow .builtins =
          .ok remainder ∧
        quotient.evaluate ⟨[.int64 (-7), .int32 2]⟩ = .ok (.int64 (-3)) ∧
        remainder.evaluate ⟨[.int64 (-7), .int32 2]⟩ = .ok (.int64 (-1)) := by
  have hrow : (Row.mk [.int64 (-7), .int32 2]).Fits wideAndNarrow := by decide
  obtain ⟨left, right, hl, hr, hleft, hright, hx, hy⟩ : ∃ left right,
      (columnNamed "W").compile wideAndNarrow .builtins = .ok left ∧
      (columnNamed "N").compile wideAndNarrow .builtins = .ok right ∧
      left.dataType = .int64 ∧ right.dataType = .int32 ∧
      left.evaluate ⟨[.int64 (-7), .int32 2]⟩ = .ok (.int64 (-7)) ∧
      right.evaluate ⟨[.int64 (-7), .int32 2]⟩ = .ok (.int32 2) :=
    ⟨_, _, rfl, rfl, rfl, rfl, rfl, rfl⟩
  obtain ⟨a, ha, hholdsLeft⟩ := CompiledExpr.exists_holdsInteger Registry.keepsTypes_builtins hl
    (Or.inr hleft) hrow hx nofun
  obtain ⟨b, hb, hholdsRight⟩ := CompiledExpr.exists_holdsInteger Registry.keepsTypes_builtins hr
    (Or.inl hright) hrow hy nofun
  obtain rfl : -7 = a := Option.some.inj ha
  obtain rfl : 2 = b := Option.some.inj hb
  obtain ⟨quotient, hquotient, hwider, -, hvalue, -⟩ :=
    arith_exact_iff hl hr hholdsLeft hholdsRight .divide
  obtain ⟨remainder, hremainder, hwider', -, hvalue', -⟩ :=
    arith_exact_iff hl hr hholdsLeft hholdsRight .modulo
  rw [hleft, hright] at hwider hwider'
  obtain htype : .int64 = quotient.dataType := Option.some.inj hwider
  obtain htype' : .int64 = remainder.dataType := Option.some.inj hwider'
  refine ⟨left, right, quotient, remainder, hl, hr, hholdsLeft, hholdsRight, hquotient, hremainder,
    (hvalue _).2 ?_, (hvalue' _).2 ?_⟩
  · rw [← htype]
    decide
  · rw [← htype']
    decide

/-- The remainder of the least 64-bit integer by minus one is refused although it is zero, where
the remainder of the least 32-bit integer is given. -/
theorem exists_remainder_refused :
    ∃ wide narrow,
      (Expr.arith .modulo (columnNamed "W") (.literal (.int64 (-1)))).compile wideAndNarrow
          .builtins = .ok wide ∧
        (Expr.arith .modulo (columnNamed "N") (.literal (.int32 (-1)))).compile wideAndNarrow
          .builtins = .ok narrow ∧
        ArithOp.exactResult? .modulo (-0x8000000000000000) (-1) = some 0 ∧
        Value.ofInteger? wide.dataType 0 = some (.int64 0) ∧
        wide.evaluate ⟨[.int64 (-0x8000000000000000), .int32 (-0x80000000)]⟩ =
          .error (.evaluation .integerOverflow) ∧
        narrow.evaluate ⟨[.int64 (-0x8000000000000000), .int32 (-0x80000000)]⟩ =
          .ok (.int32 0) :=
  ⟨_, _, rfl, rfl, by decide, by decide, rfl, rfl⟩

end StreamPlan
