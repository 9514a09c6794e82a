/-!
# Capitals

Names of functions and types are compared and shown in capitals.  Only the
letters of ASCII have capitals here; all other characters stand for themselves.

Main results:

- `toNat_toUpper`: where the capital of a character lies.
- `asciiUpper_idem`: capitals are taken once.
-/

namespace StreamPlan.Text

/-- A text with its ASCII letters in capitals; names are compared in this form. -/
def asciiUpper (s : String) : String := String.ofList (s.toList.map Char.toUpper)

/-- Characters other than small ASCII letters are their own capitals. -/
theorem toUpper_of_not_small {c : Char} (h : ¬ ('a'.val ≤ c.val ∧ c.val ≤ 'z'.val)) :
    c.toUpper = c := by
  unfold Char.toUpper
  rw [dif_neg h]

/-- The capital of a small ASCII letter lies thirty-two places before it. -/
theorem toNat_toUpper (c : Char) :
    c.toUpper.toNat = if 97 ≤ c.toNat ∧ c.toNat ≤ 122 then c.toNat - 32 else c.toNat := by
  have hsmall : ('a'.val ≤ c.val ∧ c.val ≤ 'z'.val) ↔ 97 ≤ c.toNat ∧ c.toNat ≤ 122 := by
    rw [UInt32.le_iff_toNat_le, UInt32.le_iff_toNat_le]
    exact Iff.rfl
  by_cases h : 'a'.val ≤ c.val ∧ c.val ≤ 'z'.val
  · have hval : c.toUpper.val = c.val + ('A'.val - 'a'.val) := by
      unfold Char.toUpper
      rw [dif_pos h]
    have hshift : ('A'.val - 'a'.val).toNat = 4294967264 := rfl
    have hplace : c.val.toNat = c.toNat := rfl
    have hletter := hsmall.1 h
    rw [if_pos hletter, Char.toNat, hval, UInt32.toNat_add]
    omega
  · rw [if_neg fun hletter => h (hsmall.2 hletter), toUpper_of_not_small h]

/-- A capital has no further capital. -/
theorem toUpper_toUpper (c : Char) : c.toUpper.toUpper = c.toUpper := by
  apply Char.toNat_inj.1
  rw [toNat_toUpper c.toUpper, toNat_toUpper]
  by_cases hsmall : 97 ≤ c.toNat ∧ c.toNat ≤ 122
  · rw [if_pos hsmall, if_neg (by omega)]
  · rw [if_neg hsmall, if_neg hsmall]

/-- Capitals of ASCII letters are taken once. -/
@[simp] theorem asciiUpper_idem (s : String) : asciiUpper (asciiUpper s) = asciiUpper s := by
  have h : Char.toUpper ∘ Char.toUpper = Char.toUpper := funext toUpper_toUpper
  simp only [asciiUpper, String.toList_ofList, List.map_map, h]

end StreamPlan.Text
