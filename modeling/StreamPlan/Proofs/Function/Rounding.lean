import StreamPlan.Proofs.Binary64.WholeNumbers
import StreamPlan.Proofs.Cast.Agreement
import StreamPlan.Proofs.Function.Substring
import StreamPlan.Proofs.Value.Promotion

/-!
# Rounding a number and casting it

A number becomes a 64-bit integer in two ways: rounding takes the nearest integer, a cast cuts the
fraction off.  Where the number is in the range of 64-bit integers both succeed.  Anywhere else the
cast is refused, while rounding gives zero for what is not a number and the end of the range
otherwise, so the two agree on a number exactly when it is in range.

Main results:

- `Value.rational?`, `Value.FitsInt64`: the number that a value stands for, and its range.
- `Value.exists_cast_of_fits`, `Value.cast_of_not_fits`: the cast of a number.
- `Registry.exists_round_of_fits`, `Registry.apply_round_of_not_fits`: the rounded number.
- `Value.roundedOrCast`: when rounding and casting agree.
- `exists_rounded_not_cast`: doubles that become an integer without having a cast.
-/

namespace StreamPlan

open Binary64 (Fits64 InRange64 IsNearest IsWholePart isNaN limit64)

namespace Value

variable {v : Value} {q : ℚ} {n : ℤ}

/-! ## Numbers and their range -/

/-- The rational number that a value stands for. -/
def rational? : Value → Option ℚ
  | int32 n => some n.toInt
  | int64 n => some n.toInt
  | float64 x => if Binary64.isFinite x then some (Binary64.value x) else none
  | _ => none

/-- The value stands for a number in the range of 64-bit integers. -/
def FitsInt64 (v : Value) : Prop := ∃ q, v.rational? = some q ∧ InRange64 q

/-- A double is in range when it is finite and its value is. -/
theorem fitsInt64_float64_iff {x : Float} : (float64 x).FitsInt64 ↔ Fits64 x := by
  unfold FitsInt64 Fits64 rational?
  split <;> simp_all

/-- A number in range has a whole part, which a cast reads and sixty-four bits hold. -/
theorem exists_integer?_of_fits (hq : v.rational? = some q) (hrange : InRange64 q) :
    ∃ n, v.integer? = some n ∧ IsWholePart q n ∧
      -0x8000000000000000 ≤ n ∧ n < 0x8000000000000000 := by
  cases v with
  | int32 w =>
    obtain rfl := Option.some.inj hq
    have hlo := w.le_toInt
    have hhi := w.toInt_lt
    exact ⟨_, rfl, Binary64.isWholePart_self _, by omega, by omega⟩
  | int64 w =>
    obtain rfl := Option.some.inj hq
    exact ⟨_, rfl, Binary64.isWholePart_self _, w.le_toInt, w.toInt_lt⟩
  | float64 x =>
    obtain ⟨hfinite, hvalue⟩ := Option.ite_none_right_eq_some.1 hq
    obtain rfl := Option.some.inj hvalue
    exact ⟨_, if_pos hfinite, Binary64.isWholePart_withSign x,
      Binary64.wholePart_fits_iff.2 hrange⟩
  | null | boolean | utf8 | time => cases hq

/-- A number whose integer has at most sixty-four bits is in range. -/
theorem fitsInt64_of_integer? (h : v.dataType.isNumeric = true) (hn : v.integer? = some n)
    (hlo : -0x8000000000000000 ≤ n) (hhi : n < 0x8000000000000000) : v.FitsInt64 := by
  cases v with
  | int32 w | int64 w =>
    obtain rfl := Option.some.inj hn
    exact ⟨_, rfl, by exact_mod_cast hlo, by exact_mod_cast hhi⟩
  | float64 x =>
    obtain ⟨hfinite, hwhole⟩ := Option.ite_none_right_eq_some.1 hn
    obtain rfl := Option.some.inj hwhole
    exact fitsInt64_float64_iff.2 ⟨hfinite, Binary64.wholePart_fits_iff.1 ⟨hlo, hhi⟩⟩
  | null | boolean | utf8 | time => cases h

/-- A number out of range is a double. -/
theorem exists_float64_of_not_fits (h : v.dataType.isNumeric = true) (hout : ¬ v.FitsInt64) :
    ∃ x, v = float64 x ∧ ¬ Fits64 x := by
  cases v with
  | int32 w =>
    have hlo := w.le_toInt
    have hhi := w.toInt_lt
    exact absurd (fitsInt64_of_integer? h rfl (by omega) (by omega)) hout
  | int64 w => exact absurd (fitsInt64_of_integer? h rfl w.le_toInt w.toInt_lt) hout
  | float64 x => exact ⟨x, rfl, mt fitsInt64_float64_iff.2 hout⟩
  | null | boolean | utf8 | time => cases h

/-! ## The cast of a number -/

/-- A value is cast to a 64-bit integer when it holds the integer. -/
theorem cast_int64_eq_ok_iff {w : Value} (hv : v ≠ null) :
    v.cast .int64 = .ok w ↔ ∃ m : Int64, v.integer? = some m.toInt ∧ int64 m = w := by
  rw [cast_integer_eq_ok_iff (Or.inr rfl) hv]
  simp only [ofInteger?, Option.bind_eq_some_iff, Option.map_eq_some_iff,
    Word.int64?_eq_some_iff]
  constructor
  · rintro ⟨n, hn, m, rfl, hw⟩
    exact ⟨m, hn, hw⟩
  · rintro ⟨m, hm, hw⟩
    exact ⟨_, hm, m, rfl, hw⟩

/-- A number in range is cast to its whole part. -/
theorem exists_cast_of_fits (hq : v.rational? = some q) (hrange : InRange64 q) :
    ∃ m : Int64, v.cast .int64 = .ok (int64 m) ∧ IsWholePart q m.toInt := by
  obtain ⟨n, hn, hwhole, hlo, hhi⟩ := exists_integer?_of_fits hq hrange
  have hword := Int64.toInt_ofInt_of_le hlo hhi
  have hv : v ≠ null := by
    rintro rfl
    cases hq
  rw [← hword] at hn hwhole
  exact ⟨_, (cast_int64_eq_ok_iff hv).2 ⟨_, hn, rfl⟩, hwhole⟩

/-- A number out of range is refused. -/
theorem cast_of_not_fits (h : v.dataType.isNumeric = true) (hout : ¬ v.FitsInt64) :
    v.cast .int64 = .error (.evaluation (.castFailed v .int64)) := by
  refine cast_eq_error fun w hw => hout ?_
  have hv : v ≠ null := by
    rintro rfl
    cases h
  obtain ⟨m, hm, -⟩ := (cast_int64_eq_ok_iff hv).1 hw
  exact fitsInt64_of_integer? h hm m.le_toInt m.toInt_lt

end Value

/-! ## The rounded number -/

namespace Registry

open Builtin

variable {v : Value} {q : ℚ}

/-- Rounding a number is what the body of the function makes of it. -/
theorem apply_round (h : v.dataType.isNumeric = true) :
    builtins.apply "ROUND" [v] = round [v] := by
  have htype : ofRounding ([v].map Value.dataType) = .ok .int64 := by
    simp [ofRounding, requireArity, Arity.accepts, bind, Except.bind, h]
  have hpresent : v ≠ .null := by
    rintro rfl
    cases h
  exact apply_builtin ofRounding (by simp [all]) htype (by simpa using hpresent)

/-- A number in range is rounded to the nearest integer. -/
theorem exists_round_of_fits (h : v.dataType.isNumeric = true) (hq : v.rational? = some q)
    (hrange : InRange64 q) :
    ∃ m : Int64, builtins.apply "ROUND" [v] = .ok (.int64 m) ∧ IsNearest q m.toInt := by
  rw [apply_round h]
  cases v with
  | int32 w =>
    obtain rfl := Option.some.inj hq
    have hlo := w.le_toInt
    have hhi := w.toInt_lt
    have hword := Int64.toInt_ofInt_of_le (n := w.toInt) (by omega) (by omega)
    exact ⟨_, rfl, by rw [hword]; exact Binary64.isNearest_self _⟩
  | int64 w =>
    obtain rfl := Option.some.inj hq
    exact ⟨_, rfl, Binary64.isNearest_self _⟩
  | float64 x =>
    obtain ⟨hfinite, hvalue⟩ := Option.ite_none_right_eq_some.1 hq
    obtain rfl := Option.some.inj hvalue
    refine ⟨_, rfl, ?_⟩
    rw [Binary64.toInt_rounded, Binary64.rounded_of_fits ⟨hfinite, hrange⟩]
    exact Binary64.isNearest_withSign x
  | null | boolean | utf8 | time => cases h

/-- A number out of range is rounded all the same. -/
theorem apply_round_of_not_fits (h : v.dataType.isNumeric = true) (hout : ¬ v.FitsInt64) :
    ∃ (x : Float) (m : Int64), v = .float64 x ∧ builtins.apply "ROUND" [v] = .ok (.int64 m) ∧
      m.toInt = if isNaN x then 0 else limit64 x := by
  obtain ⟨x, rfl, hx⟩ := Value.exists_float64_of_not_fits h hout
  rw [apply_round h]
  exact ⟨x, _, rfl, rfl, by rw [Binary64.toInt_rounded, Binary64.rounded_of_not_fits hx]⟩

end Registry

/-! ## Where the two agree -/

/-- Rounding a number gives an integer only where a cast does, and both are refused out of the range
of 64-bit integers. -/
structure Value.RoundsAsCast (v : Value) : Prop where
  /-- A number that is rounded has a cast. -/
  cast : ∀ w, Registry.builtins.apply "ROUND" [v] = .ok w → ∃ m, v.cast .int64 = .ok m
  /-- A number out of range fails on the row in both. -/
  refused : ¬ v.FitsInt64 →
    (∃ e, Registry.builtins.apply "ROUND" [v] = .error e ∧ e.kind = .execution) ∧
      ∃ e, v.cast .int64 = .error e ∧ e.kind = .execution

/-- What rounding and casting make of a number. -/
structure Value.RoundedOrCast (v : Value) : Prop where
  /-- In range, rounding gives the nearest integer and a cast the whole part. -/
  inRange : ∀ q, v.rational? = some q → InRange64 q → ∃ nearest whole : Int64,
    Registry.builtins.apply "ROUND" [v] = .ok (.int64 nearest) ∧ IsNearest q nearest.toInt ∧
      v.cast .int64 = .ok (.int64 whole) ∧ IsWholePart q whole.toInt
  /-- Out of range, the number is a double.  The cast fails on the row, and rounding gives zero for
  what is not a number and the end of the range on its side otherwise. -/
  outOfRange : ¬ v.FitsInt64 → v.cast .int64 = .error (.evaluation (.castFailed v .int64)) ∧
    ∃ (x : Float) (m : Int64), v = .float64 x ∧
      Registry.builtins.apply "ROUND" [v] = .ok (.int64 m) ∧
      m.toInt = if isNaN x then 0 else limit64 x
  /-- The two agree exactly in range. -/
  agrees_iff : v.RoundsAsCast ↔ v.FitsInt64

/-- A number is rounded as it is cast exactly in the range of 64-bit integers. -/
theorem Value.roundedOrCast {v : Value} (h : v.dataType.isNumeric = true) : v.RoundedOrCast where
  inRange q hq hrange := by
    obtain ⟨nearest, hround, hnearest⟩ := Registry.exists_round_of_fits h hq hrange
    obtain ⟨whole, hcast, hwhole⟩ := exists_cast_of_fits hq hrange
    exact ⟨nearest, whole, hround, hnearest, hcast, hwhole⟩
  outOfRange hout := ⟨cast_of_not_fits h hout, Registry.apply_round_of_not_fits h hout⟩
  agrees_iff := by
    constructor
    · intro hagrees
      by_contra hout
      -- Out of range rounding goes on to give an integer, which would need a cast.
      obtain ⟨x, m, -, hround, -⟩ := Registry.apply_round_of_not_fits h hout
      obtain ⟨w, hcast⟩ := hagrees.cast _ hround
      rw [cast_of_not_fits h hout] at hcast
      cases hcast
    · rintro ⟨q, hq, hrange⟩
      obtain ⟨m, hcast, -⟩ := exists_cast_of_fits hq hrange
      exact ⟨fun _ _ => ⟨_, hcast⟩, fun hout => absurd ⟨q, hq, hrange⟩ hout⟩

/-- Minus three and a half is rounded away from zero and cut off towards it. -/
theorem Value.roundedOrCast_minusSevenHalves :
    (float64 (Binary64.ofBits 0xC00C000000000000)).dataType.isNumeric = true ∧
      (float64 (Binary64.ofBits 0xC00C000000000000)).RoundedOrCast ∧
      Registry.builtins.apply "ROUND" [float64 (Binary64.ofBits 0xC00C000000000000)] =
        .ok (int64 (-4)) ∧
      (float64 (Binary64.ofBits 0xC00C000000000000)).cast .int64 = .ok (int64 (-3)) :=
  ⟨rfl, roundedOrCast rfl, rfl, rfl⟩

/-- What is not a number, infinity and the first double beyond the range are rounded to integers,
and none of them has a cast. -/
theorem exists_rounded_not_cast :
    ∃ notNumber infinite beyond : Value,
      notNumber = .float64 (Binary64.ofBits 0x7FF8000000000000) ∧
        infinite = .float64 (Binary64.infinity false) ∧
        beyond = .float64 (Binary64.ofBits 0x43E0000000000000) ∧
        Registry.builtins.apply "ROUND" [notNumber] = .ok (.int64 0) ∧
        Registry.builtins.apply "ROUND" [infinite] = .ok (.int64 0x7FFFFFFFFFFFFFFF) ∧
        Registry.builtins.apply "ROUND" [beyond] = .ok (.int64 0x7FFFFFFFFFFFFFFF) ∧
        notNumber.cast .int64 = .error (.evaluation (.castFailed notNumber .int64)) ∧
        infinite.cast .int64 = .error (.evaluation (.castFailed infinite .int64)) ∧
        beyond.cast .int64 = .error (.evaluation (.castFailed beyond .int64)) :=
  ⟨_, _, _, rfl, rfl, rfl, rfl, rfl, rfl, rfl, rfl, rfl⟩

end StreamPlan
