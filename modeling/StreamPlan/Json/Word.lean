import StreamPlan.Json
import StreamPlan.Word

/-!
# Machine words in JSON

Words are written as integers and read from integers that they can hold.

Main results:

- `Json.int32?_int`, `Json.int64?_int`: signed words are read back.
- `Json.uint16?_ofNat`, `Json.uint32?_ofNat`, `Json.uint64?_ofNat`: so are unsigned ones.
-/

namespace StreamPlan.Json

/-- The signed 8-bit word that an integer is. -/
def int8? (j : Json) : Option Int8 := j.int?.bind Word.int8?

/-- The signed 32-bit word that an integer is. -/
def int32? (j : Json) : Option Int32 := j.int?.bind Word.int32?

/-- The signed 64-bit word that an integer is. -/
def int64? (j : Json) : Option Int64 := j.int?.bind Word.int64?

/-- The unsigned 8-bit word that an integer is. -/
def uint8? (j : Json) : Option UInt8 := j.nat?.bind Word.uint8?

/-- The unsigned 16-bit word that an integer is. -/
def uint16? (j : Json) : Option UInt16 := j.nat?.bind Word.uint16?

/-- The unsigned 32-bit word that an integer is. -/
def uint32? (j : Json) : Option UInt32 := j.nat?.bind Word.uint32?

/-- The unsigned 64-bit word that an integer is. -/
def uint64? (j : Json) : Option UInt64 := j.nat?.bind Word.uint64?

/-- A natural number as an integer. -/
def ofNat (n : Nat) : Json := int (.ofNat n)

/-- A natural number is read back. -/
@[simp] theorem nat?_ofNat (n : Nat) : nat? (ofNat n) = some n := rfl

/-- A signed 8-bit word is read back. -/
@[simp] theorem int8?_int (v : Int8) : int8? (int v.toInt) = some v := by
  have hv : -0x80 ≤ v.toInt ∧ v.toInt < 0x80 := ⟨v.le_toInt, v.toInt_lt⟩
  simp only [int8?, int?, Option.bind_some, Word.int8?, if_pos hv, Int8.ofInt_toInt]

/-- A signed 32-bit word is read back. -/
@[simp] theorem int32?_int (v : Int32) : int32? (int v.toInt) = some v :=
  Word.int32?_eq_some_iff.2 rfl

/-- A signed 64-bit word is read back. -/
@[simp] theorem int64?_int (v : Int64) : int64? (int v.toInt) = some v :=
  Word.int64?_eq_some_iff.2 rfl

/-- An unsigned 8-bit word is read back. -/
@[simp] theorem uint8?_ofNat (v : UInt8) : uint8? (ofNat v.toNat) = some v := by
  simp [uint8?, Word.uint8?, v.toNat_lt]

/-- An unsigned 16-bit word is read back. -/
@[simp] theorem uint16?_ofNat (v : UInt16) : uint16? (ofNat v.toNat) = some v := by
  simp [uint16?, Word.uint16?, v.toNat_lt]

/-- An unsigned 32-bit word is read back. -/
@[simp] theorem uint32?_ofNat (v : UInt32) : uint32? (ofNat v.toNat) = some v := by
  simp [uint32?, Word.uint32?_toNat]

/-- An unsigned 64-bit word is read back. -/
@[simp] theorem uint64?_ofNat (v : UInt64) : uint64? (ofNat v.toNat) = some v := by
  simp [uint64?, Word.uint64?_toNat]

end StreamPlan.Json
