/-!
# Machine words

Integers that fit a fixed number of bits.  Arithmetic is done on integers and the
result narrowed, so nothing wraps unnoticed.

Main results:

- `int32?_eq_some_iff`, `int64?_eq_some_iff`: narrowing succeeds exactly on the
  integers that a word holds, and keeps the value.
- `uint16?_eq_some_iff`, `uint32?_eq_some_iff`: so does narrowing to unsigned words.
- `uint32?_toNat`, `uint64?_toNat`: every unsigned word is the word of its value.
-/

namespace StreamPlan.Word

/-- The 32-bit word with the value `n`, when there is one. -/
def int32? (n : Int) : Option Int32 :=
  if -0x80000000 ≤ n ∧ n < 0x80000000 then some (Int32.ofInt n) else none

/-- The 64-bit word with the value `n`, when there is one. -/
def int64? (n : Int) : Option Int64 :=
  if -0x8000000000000000 ≤ n ∧ n < 0x8000000000000000 then some (Int64.ofInt n) else none

/-- The 8-bit word with the value `n`, when there is one. -/
def int8? (n : Int) : Option Int8 :=
  if -0x80 ≤ n ∧ n < 0x80 then some (Int8.ofInt n) else none

/-- The unsigned 8-bit word with the value `n`, when there is one. -/
def uint8? (n : Nat) : Option UInt8 := if n < 0x100 then some (UInt8.ofNat n) else none

/-- The unsigned 16-bit word with the value `n`, when there is one. -/
def uint16? (n : Nat) : Option UInt16 := if n < 0x10000 then some (UInt16.ofNat n) else none

/-- The unsigned 32-bit word with the value `n`, when there is one. -/
def uint32? (n : Nat) : Option UInt32 :=
  if n < 0x100000000 then some (UInt32.ofNat n) else none

/-- The unsigned 64-bit word with the value `n`, when there is one. -/
def uint64? (n : Nat) : Option UInt64 :=
  if n < 0x10000000000000000 then some (UInt64.ofNat n) else none

/-- Narrowing to 32 bits keeps the value, and succeeds on every value of a word. -/
theorem int32?_eq_some_iff {n : Int} {v : Int32} : int32? n = some v ↔ v.toInt = n := by
  have hlo := v.le_toInt
  have hhi := v.toInt_lt
  unfold int32?
  constructor
  · intro h
    split at h
    · rename_i hn
      obtain rfl := Option.some.inj h
      exact Int32.toInt_ofInt_of_le hn.1 hn.2
    · cases h
  · rintro rfl
    rw [if_pos ⟨hlo, hhi⟩, Int32.ofInt_toInt]

/-- Narrowing to 64 bits keeps the value, and succeeds on every value of a word. -/
theorem int64?_eq_some_iff {n : Int} {v : Int64} : int64? n = some v ↔ v.toInt = n := by
  have hlo := v.le_toInt
  have hhi := v.toInt_lt
  unfold int64?
  constructor
  · intro h
    split at h
    · rename_i hn
      obtain rfl := Option.some.inj h
      exact Int64.toInt_ofInt_of_le hn.1 hn.2
    · cases h
  · rintro rfl
    rw [if_pos ⟨hlo, hhi⟩, Int64.ofInt_toInt]

/-- Narrowing to 16 bits without a sign keeps the value, and succeeds on every value of a word. -/
theorem uint16?_eq_some_iff {n : Nat} {v : UInt16} : uint16? n = some v ↔ v.toNat = n := by
  unfold uint16?
  constructor
  · intro h
    split at h
    · rename_i hn
      obtain rfl := Option.some.inj h
      exact UInt16.toNat_ofNat_of_lt' hn
    · cases h
  · rintro rfl
    rw [if_pos v.toNat_lt, UInt16.ofNat_toNat]

/-- Narrowing to 32 bits without a sign keeps the value, and succeeds on every value of a word. -/
theorem uint32?_eq_some_iff {n : Nat} {v : UInt32} : uint32? n = some v ↔ v.toNat = n := by
  unfold uint32?
  constructor
  · intro h
    split at h
    · rename_i hn
      obtain rfl := Option.some.inj h
      exact UInt32.toNat_ofNat_of_lt' hn
    · cases h
  · rintro rfl
    rw [if_pos v.toNat_lt, UInt32.ofNat_toNat]

/-- A 32-bit word is the word of its value. -/
theorem uint32?_toNat (v : UInt32) : uint32? v.toNat = some v := uint32?_eq_some_iff.2 rfl

/-- A 64-bit word is the word of its value. -/
theorem uint64?_toNat (v : UInt64) : uint64? v.toNat = some v := by
  rw [uint64?, if_pos v.toNat_lt, UInt64.ofNat_toNat]

end StreamPlan.Word
