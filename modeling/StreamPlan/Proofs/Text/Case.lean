import StreamPlan.Text.Capital

/-!
# The case of ASCII letters

Names are compared by their capitals.  Small letters would do as well: two texts have the same
capitals exactly if they differ in nothing but the case of ASCII letters.

Main results:

- `asciiLower`, `SameUpToCase`: small letters, and texts that differ in case only.
- `toNat_toLower`: where the small letter of a character lies.
- `asciiUpper_eq_iff`: texts with the same capitals.
-/

namespace StreamPlan.Text

/-- A text with its ASCII letters small. -/
def asciiLower (s : String) : String := String.ofList (s.toList.map Char.toLower)

/-- Two texts differ in nothing but the case of their ASCII letters. -/
def SameUpToCase (a b : String) : Prop := asciiLower a = asciiLower b

instance (a b : String) : Decidable (SameUpToCase a b) :=
  inferInstanceAs (Decidable (asciiLower a = asciiLower b))

/-! ## Letters -/

/-- The small letter of a capital ASCII letter lies thirty-two places behind it. -/
theorem toNat_toLower (c : Char) :
    c.toLower.toNat = if 65 ≤ c.toNat ∧ c.toNat ≤ 90 then c.toNat + 32 else c.toNat := by
  have hcapital : (c.val ≥ 'A'.val ∧ c.val ≤ 'Z'.val) ↔ 65 ≤ c.toNat ∧ c.toNat ≤ 90 := by
    rw [ge_iff_le, UInt32.le_iff_toNat_le, UInt32.le_iff_toNat_le]
    exact Iff.rfl
  unfold Char.toLower
  by_cases h : c.val ≥ 'A'.val ∧ c.val ≤ 'Z'.val
  · have hshift : ('a'.val - 'A'.val).toNat = 32 := rfl
    have hplace : c.val.toNat = c.toNat := rfl
    have hletter := hcapital.1 h
    rw [dif_pos h, if_pos hletter, Char.toNat, UInt32.toNat_add]
    omega
  · rw [dif_neg h, if_neg fun hletter => h (hcapital.2 hletter)]

/-- The small letter of a character has its capital. -/
theorem toUpper_toLower (c : Char) : c.toLower.toUpper = c.toUpper := by
  apply Char.toNat_inj.1
  rw [toNat_toUpper, toNat_toUpper, toNat_toLower]
  by_cases hcapital : 65 ≤ c.toNat ∧ c.toNat ≤ 90
  · rw [if_pos hcapital, if_pos (by omega), if_neg (by omega)]
    omega
  · rw [if_neg hcapital]

/-- The capital of a character has its small letter. -/
theorem toLower_toUpper (c : Char) : c.toUpper.toLower = c.toLower := by
  apply Char.toNat_inj.1
  rw [toNat_toLower, toNat_toLower, toNat_toUpper]
  by_cases hsmall : 97 ≤ c.toNat ∧ c.toNat ≤ 122
  · rw [if_pos hsmall, if_pos (by omega), if_neg (by omega)]
    omega
  · rw [if_neg hsmall]

/-! ## Texts -/

/-- Capitals of two texts one after the other. -/
theorem asciiUpper_append (a b : String) : asciiUpper (a ++ b) = asciiUpper a ++ asciiUpper b := by
  rw [asciiUpper, String.toList_append, List.map_append, String.ofList_append]
  rfl

/-- Small letters have the capitals of the text. -/
theorem asciiUpper_asciiLower (s : String) : asciiUpper (asciiLower s) = asciiUpper s := by
  have h : Char.toUpper ∘ Char.toLower = Char.toUpper := funext toUpper_toLower
  simp only [asciiUpper, asciiLower, String.toList_ofList, List.map_map, h]

/-- Capitals have the small letters of the text. -/
theorem asciiLower_asciiUpper (s : String) : asciiLower (asciiUpper s) = asciiLower s := by
  have h : Char.toLower ∘ Char.toUpper = Char.toLower := funext toLower_toUpper
  simp only [asciiUpper, asciiLower, String.toList_ofList, List.map_map, h]

/-- Two texts have the same capitals exactly if they differ in case only. -/
theorem asciiUpper_eq_iff {a b : String} : asciiUpper a = asciiUpper b ↔ SameUpToCase a b := by
  constructor
  · intro h
    rw [SameUpToCase, ← asciiLower_asciiUpper a, h, asciiLower_asciiUpper]
  · intro h
    rw [← asciiUpper_asciiLower a, h, asciiUpper_asciiLower]

example : SameUpToCase "UCase" "ucase" := by decide

end StreamPlan.Text
