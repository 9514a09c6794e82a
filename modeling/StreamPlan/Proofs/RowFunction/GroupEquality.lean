import StreamPlan.Proofs.Expr.TypeSoundness
import StreamPlan.Proofs.Value.TextEquality
import StreamPlan.RowFunction.GroupKey

/-!
# Grouping by text and equality

Rows are grouped by the text of their grouping value, while filters and joins compare values.
The two notions of sameness agree except in three places: null is grouped with the string of
its text, the two zeros are equal but grouped apart, and a function that returns values of
another type than it declares may give equal texts to values that are not comparable.

Main results:

- `Value.Grouped`: the values that are grouped together.
- `GroupKey.keyFor_eq_iff_grouped`: keys of single expressions.
-/

namespace StreamPlan

/-- The values fall into one group: both are null, one is null and the other is the string of
its text, or they are equal and not zeros of opposite sign. -/
def Value.Grouped (a b : Value) : Prop :=
  (a = .null ∧ b = .null) ∨ (a = .null ∧ b = .utf8 "null") ∨ (a = .utf8 "null" ∧ b = .null) ∨
    (a.compare? b = some .eq ∧ ¬ Value.OppositeZeros a b)

/-- Values that fit one type have one text exactly when they are grouped. -/
theorem Value.text_eq_text_iff_grouped {a b : Value} {type : DataType} (hfita : a.Fits type)
    (hfitb : b.Fits type) (ha : a.NotNaN) (hb : b.NotNaN) : a.text = b.text ↔ a.Grouped b := by
  have hnull : ∀ v : Value, null.compare? v = none ∧ v.compare? null = none := by
    intro v
    cases v <;> exact ⟨rfl, rfl⟩
  unfold Grouped
  by_cases hanull : a = null
  · subst hanull
    rw [eq_comm, text_eq_null_text_iff, (hnull b).1]
    simp
  · by_cases hbnull : b = null
    · subst hbnull
      rw [text_eq_null_text_iff, (hnull a).2]
      simp
    · have htype : a.dataType = b.dataType :=
        (hfita.resolve_left hanull).trans (hfitb.resolve_left hbnull).symm
      rw [text_eq_text_iff htype hanull ha hb]
      simp [hanull, hbnull]

namespace GroupKey

/-- Over functions that keep their types, two rows have the same key under a single expression
exactly when its values, none of them NaN, are grouped. -/
theorem keyFor_eq_iff_grouped {schema : Schema} {functions : Registry}
    (hfunctions : functions.KeepsTypes) {e : Expr} {compiled : CompiledExpr}
    (hcompiled : e.compile schema functions = .ok compiled) {r s : Row} (hr : r.Fits schema)
    (hs : s.Fits schema) {a b : Value} (ha : compiled.evaluate r = .ok a)
    (hb : compiled.evaluate s = .ok b) (hanan : a.NotNaN) (hbnan : b.NotNaN) :
    (GroupKey.mk [compiled]).keyFor r = (GroupKey.mk [compiled]).keyFor s ↔ a.Grouped b := by
  obtain ⟨typed, htyped, rfl⟩ := Expr.compile_eq_ok_iff.1 hcompiled
  have hsound := Expr.sound_typed hfunctions e typed htyped
  rw [keyFor_single ha, keyFor_single hb, Value.utf8.injEq]
  exact Value.text_eq_text_iff_grouped (hsound r hr a ha) (hsound s hs b hb) hanan hbnan

/-- A column of doubles. -/
def amounts : Schema := ⟨[⟨"X", .float64⟩]⟩

/-- The row with the double of these bits. -/
def amount (bits : Nat) : Row := ⟨[.float64 (Binary64.ofBits bits)]⟩

/-- A tenth and the next double are grouped apart, however their texts may look. -/
theorem keyFor_tenth_ne_next :
    ∃ compiled, (Expr.column ⟨none, "X"⟩).compile amounts Registry.builtins = .ok compiled ∧
      (GroupKey.mk [compiled]).keyFor (amount 0x3FB999999999999A) ≠
        (GroupKey.mk [compiled]).keyFor (amount 0x3FB999999999999B) := by
  obtain ⟨compiled, hcompiled, ha, hb⟩ :
      ∃ compiled, (Expr.column ⟨none, "X"⟩).compile amounts Registry.builtins = .ok compiled ∧
        compiled.evaluate (amount 0x3FB999999999999A) =
          .ok (.float64 (Binary64.ofBits 0x3FB999999999999A)) ∧
        compiled.evaluate (amount 0x3FB999999999999B) =
          .ok (.float64 (Binary64.ofBits 0x3FB999999999999B)) :=
    ⟨_, rfl, rfl, rfl⟩
  refine ⟨compiled, hcompiled, fun hkey => ?_⟩
  have hgrouped := (keyFor_eq_iff_grouped Registry.keepsTypes_builtins hcompiled
    (by decide +kernel) (by decide +kernel) ha hb
    (fun x hx => Value.float64.inj hx ▸ by decide +kernel)
    (fun x hx => Value.float64.inj hx ▸ by decide +kernel)).1 hkey
  have hcompare : (Value.float64 (Binary64.ofBits 0x3FB999999999999A)).compare?
      (.float64 (Binary64.ofBits 0x3FB999999999999B)) = some .lt := by decide +kernel
  simp [Value.Grouped, hcompare] at hgrouped

/-- A column of strings. -/
def words : Schema := ⟨[⟨"S", .utf8⟩]⟩

/-- A column of 32-bit integers. -/
def numbers : Schema := ⟨[⟨"N", .int32⟩]⟩

/-- A function that declares strings and returns the integer one as it is. -/
def drifting : ScalarFunction where
  name := "drifting"
  returnType types := if types = [.int32] then .ok .utf8 else .error (.reported .typeResolution "")
  invoke arguments := .ok (if arguments = [.int32 1] then .int32 1 else .utf8 "1")

/-- Null shares its key with a string and is not equal to it; the two zeros are equal and have
different keys; and a function that does not keep its type gives one key to values that are
not comparable. -/
theorem not_keyFor_eq_iff_equal :
    (∃ compiled, (Expr.column ⟨none, "S"⟩).compile words Registry.builtins = .ok compiled ∧
      compiled.evaluate ⟨[.null]⟩ = .ok .null ∧
      compiled.evaluate ⟨[.utf8 "null"]⟩ = .ok (.utf8 "null") ∧
      (GroupKey.mk [compiled]).keyFor ⟨[.null]⟩ =
        (GroupKey.mk [compiled]).keyFor ⟨[.utf8 "null"]⟩ ∧
      ¬ ((Value.null = .null ∧ Value.utf8 "null" = .null) ∨
        Value.null.compare? (.utf8 "null") = some .eq)) ∧
    (∃ compiled, (Expr.column ⟨none, "X"⟩).compile amounts Registry.builtins = .ok compiled ∧
      compiled.evaluate (amount 0) = .ok (.float64 (Binary64.ofBits 0)) ∧
      compiled.evaluate (amount 0x8000000000000000) =
        .ok (.float64 (Binary64.ofBits 0x8000000000000000)) ∧
      (Value.float64 (Binary64.ofBits 0)).compare?
        (.float64 (Binary64.ofBits 0x8000000000000000)) = some .eq ∧
      (GroupKey.mk [compiled]).keyFor (amount 0) = .utf8 "0.0" ∧
      (GroupKey.mk [compiled]).keyFor (amount 0x8000000000000000) = .utf8 "-0.0") ∧
    ∃ compiled, (Expr.call "DRIFTING" [.column ⟨none, "N"⟩]).compile numbers
        (Registry.builtins.register drifting) = .ok compiled ∧
      compiled.evaluate ⟨[.int32 1]⟩ = .ok (.int32 1) ∧
      compiled.evaluate ⟨[.int32 2]⟩ = .ok (.utf8 "1") ∧
      (GroupKey.mk [compiled]).keyFor ⟨[.int32 1]⟩ =
        (GroupKey.mk [compiled]).keyFor ⟨[.int32 2]⟩ ∧
      ¬ ((Value.int32 1 = .null ∧ Value.utf8 "1" = .null) ∨
        (Value.int32 1).compare? (.utf8 "1") = some .eq) := by
  refine ⟨⟨_, rfl, rfl, rfl, rfl, by decide⟩, ⟨_, rfl, rfl, rfl, by decide +kernel, ?_, ?_⟩,
    ⟨_, rfl, rfl, rfl, ?_, by decide⟩⟩
  · decide +kernel
  · decide +kernel
  · decide +kernel

end GroupKey

end StreamPlan
