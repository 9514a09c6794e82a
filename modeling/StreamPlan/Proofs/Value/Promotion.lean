import Mathlib.Data.List.Forall2
import StreamPlan.Cast
import StreamPlan.Proofs.Conformance
import StreamPlan.Proofs.Outcome
import StreamPlan.Proofs.Schema.Reference

/-!
# Promotion of 32-bit integers

A 32-bit integer can be held with 64 bits.  A type is promoted when it becomes that of 64-bit
integers where it was that of 32-bit ones, and a value when it is held so.  Promotion keeps
what other types make of a value: its text, its double and, where it fits, its integer.

Main results:

- `DataType.PromotesTo`, `Schema.PromotesTo`: promoted types and columns.
- `Value.promote`, `Row.promote`: values and rows held in promoted types.
- `Value.compare?_promote`: promoted values are in the same order.
- `Value.cast_promote`: a cast and a promotion can be exchanged.
-/

namespace StreamPlan

/-! ## Types -/

namespace DataType

/-- A type stays as it is, or 32-bit integers become 64-bit ones. -/
def PromotesTo (type wide : DataType) : Prop := wide = type ∨ type = .int32 ∧ wide = .int64

instance (type wide : DataType) : Decidable (type.PromotesTo wide) :=
  inferInstanceAs (Decidable (_ ∨ _))

namespace PromotesTo

variable {type wide : DataType}

/-- A type may stay as it is. -/
theorem refl (type : DataType) : type.PromotesTo type := Or.inl rfl

/-- A type that is not one of 32-bit integers stays as it is. -/
theorem eq_of_ne (h : type.PromotesTo wide) (hne : type ≠ .int32) : wide = type :=
  h.resolve_right fun hpromoted => hne hpromoted.1

/-- Promotion goes on. -/
theorem trans {other : DataType} (h : type.PromotesTo wide) (hnext : wide.PromotesTo other) :
    type.PromotesTo other := by
  rcases h with rfl | ⟨rfl, rfl⟩
  · exact hnext
  · exact Or.inr ⟨rfl, hnext.eq_of_ne nofun⟩

/-- Only the null type is promoted to the null type. -/
theorem eq_null_iff (h : type.PromotesTo wide) : wide = .null ↔ type = .null := by
  rcases h with rfl | ⟨rfl, rfl⟩
  · exact Iff.rfl
  · exact iff_of_false nofun nofun

/-- Of the numeric types one is promoted. -/
theorem isNumeric_eq (h : type.PromotesTo wide) : wide.isNumeric = type.isNumeric := by
  rcases h with rfl | ⟨rfl, rfl⟩ <;> rfl

end PromotesTo

end DataType

/-! ## Values -/

namespace Value

/-- The value as it is held in a type: a 32-bit integer with 64 bits in the type of 64-bit
integers, anything else as it is. -/
def promote (type : DataType) : Value → Value
  | int32 n => if type = .int64 then int64 n.toInt64 else int32 n
  | v => v

variable {v w : Value} {type wide : DataType}

/-- Other types hold a value as it is. -/
theorem promote_of_ne (h : type ≠ .int64) (v : Value) : v.promote type = v := by
  cases v with
  | int32 n => exact if_neg h
  | null | boolean | int64 | float64 | utf8 | time => rfl

/-- The type of truth values holds a value as it is. -/
@[simp] theorem promote_boolean (v : Value) : v.promote .boolean = v :=
  promote_of_ne (show DataType.boolean ≠ .int64 from nofun) v

/-- A value that fits a type is held in it as it is. -/
theorem promote_of_fits (h : v.Fits type) : v.promote type = v := by
  cases v with
  | int32 n =>
    refine promote_of_ne ?_ _
    rintro rfl
    exact absurd (h.resolve_left nofun) nofun
  | null | boolean | int64 | float64 | utf8 | time => rfl

/-- A value that fits the type of 32-bit integers is null or one of them. -/
theorem eq_null_or_int32_of_fits (h : v.Fits .int32) : v = null ∨ ∃ n, v = int32 n := by
  cases v with
  | null => exact Or.inl rfl
  | int32 n => exact Or.inr ⟨n, rfl⟩
  | boolean | int64 | float64 | utf8 | time => exact absurd (h.resolve_left nofun) nofun

/-- A value fits the promoted type in which it is held. -/
theorem fits_promote (h : v.Fits type) (hwide : type.PromotesTo wide) :
    (v.promote wide).Fits wide := by
  rcases hwide with rfl | ⟨rfl, rfl⟩
  · rwa [promote_of_fits h]
  · rcases eq_null_or_int32_of_fits h with rfl | ⟨n, rfl⟩
    · exact null_fits _
    · exact Or.inr rfl

/-! ### What promotion keeps -/

/-- What is the same of a 32-bit integer held with 64 bits is the same of every value that is
promoted. -/
theorem apply_promote {α : Type} {f : Value → α}
    (hf : ∀ n : Int32, f (int64 n.toInt64) = f (int32 n)) (type : DataType) (v : Value) :
    f (v.promote type) = f v := by
  by_cases htype : type = .int64
  · subst htype
    cases v with
    | int32 n => exact hf n
    | null | boolean | int64 | float64 | utf8 | time => rfl
  · rw [promote_of_ne htype]

/-- A promoted value is null if it was. -/
@[simp] theorem isNull_promote (type : DataType) (v : Value) :
    (v.promote type).isNull = v.isNull :=
  apply_promote (fun _ => rfl) type v

/-- It is not null if it was not. -/
theorem promote_ne_null (type : DataType) (h : v ≠ null) : v.promote type ≠ null := by
  rwa [Ne, ← isNull_iff, isNull_promote, isNull_iff]

/-- It holds the same integer. -/
@[simp] theorem toInt?_promote (type : DataType) (v : Value) :
    (v.promote type).toInt? = v.toInt? :=
  apply_promote (f := toInt?) (fun n => congrArg some (Int32.toInt_toInt64 n)) type v

/-- It is a truth value if it was. -/
@[simp] theorem toBool?_promote (type : DataType) (v : Value) :
    (v.promote type).toBool? = v.toBool? :=
  apply_promote (fun _ => rfl) type v

/-- It is a string if it was. -/
@[simp] theorem toText?_promote (type : DataType) (v : Value) :
    (v.promote type).toText? = v.toText? :=
  apply_promote (fun _ => rfl) type v

/-- Two values of one type are in the same order when both are promoted. -/
theorem compare?_promote {a b : Value} (ha : a.Fits type) (hb : b.Fits type)
    (hwide : type.PromotesTo wide) :
    (a.promote wide).compare? (b.promote wide) = a.compare? b := by
  rcases hwide with rfl | ⟨rfl, rfl⟩
  · rw [promote_of_fits ha, promote_of_fits hb]
  · rcases eq_null_or_int32_of_fits ha with rfl | ⟨m, rfl⟩
    · rfl
    · rcases eq_null_or_int32_of_fits hb with rfl | ⟨n, rfl⟩
      · rfl
      · change some (compare m.toInt64.toInt n.toInt64.toInt) = some (compare m.toInt n.toInt)
        rw [Int32.toInt_toInt64, Int32.toInt_toInt64]

/-! ### Casts -/

/-- The integer that a cast to integers reads from a value. -/
def integer? : Value → Option Int
  | int32 n => some n.toInt
  | int64 n => some n.toInt
  | float64 x => Binary64.truncated? x
  | utf8 s => readInteger? s
  | _ => none

/-- The integer as a value of an integer type, when it fits. -/
def ofInteger? (type : DataType) (i : Int) : Option Value :=
  match type with
  | .int32 => (Word.int32? i).map int32
  | .int64 => (Word.int64? i).map int64
  | _ => none

/-- A cast that changes the type of a value is a conversion. -/
theorem cast_eq_ok_iff_convert? (hv : v ≠ null) (hne : v.dataType ≠ type) :
    v.cast type = .ok w ↔ v.convert? type = some w := by
  rw [cast, isNull_eq_false hv, beq_eq_false_iff_ne.2 hne]
  cases v.convert? type with
  | none => simp
  | some x => simp

/-- A conversion to an integer type reads an integer that fits the type. -/
theorem convert?_integer (htype : type = .int32 ∨ type = .int64) (hne : v.dataType ≠ type) :
    v.convert? type = v.integer?.bind (ofInteger? type) := by
  rcases htype with rfl | rfl
  · cases v with
    | int32 => exact absurd rfl hne
    | float64 | utf8 => exact Option.map_bind
    | null | boolean | int64 | time => rfl
  · cases v with
    | int64 => exact absurd rfl hne
    | float64 | utf8 => exact Option.map_bind
    | null | boolean | int32 | time => rfl

/-- The integer of a value of an integer type fits the type. -/
theorem ofInteger?_of_dataType (htype : type = .int32 ∨ type = .int64) (h : v.dataType = type) :
    v.integer?.bind (ofInteger? type) = some v := by
  rcases htype with rfl | rfl
  · cases v with
    | int32 n => exact congrArg (Option.map int32) (Word.int32?_eq_some_iff.2 rfl)
    | null | boolean | int64 | float64 | utf8 | time => cases h
  · cases v with
    | int64 n => exact congrArg (Option.map int64) (Word.int64?_eq_some_iff.2 rfl)
    | null | boolean | int32 | float64 | utf8 | time => cases h

/-- A cast to an integer type reads an integer that fits the type. -/
theorem cast_integer_eq_ok_iff (htype : type = .int32 ∨ type = .int64) (hv : v ≠ null) :
    v.cast type = .ok w ↔ v.integer?.bind (ofInteger? type) = some w := by
  by_cases hsame : v.dataType = type
  · rw [cast_of_dataType_eq hsame, ofInteger?_of_dataType htype hsame]
    simp
  · rw [cast_eq_ok_iff_convert? hv hsame, convert?_integer htype hsame]

/-- An integer that fits a type is a value of it. -/
theorem dataType_of_ofInteger? {i : Int} (h : ofInteger? type i = some v) : v.dataType = type := by
  unfold ofInteger? at h
  split at h
  · obtain ⟨n, -, rfl⟩ := Option.map_eq_some_iff.1 h
    rfl
  · obtain ⟨n, -, rfl⟩ := Option.map_eq_some_iff.1 h
    rfl
  · cases h

/-- An integer that fits a type fits the promoted one, as the promoted value. -/
theorem ofInteger?_promote (htype : type.PromotesTo wide) {i : Int}
    (h : ofInteger? type i = some v) : ofInteger? wide i = some (v.promote wide) := by
  rcases htype with rfl | ⟨rfl, rfl⟩
  · rwa [promote_of_fits (Or.inr (dataType_of_ofInteger? h))]
  · obtain ⟨n, hn, rfl⟩ := Option.map_eq_some_iff.1 h
    have hwide : Word.int64? i = some n.toInt64 := by
      rw [Word.int64?_eq_some_iff, Int32.toInt_toInt64]
      exact Word.int32?_eq_some_iff.1 hn
    exact congrArg (Option.map int64) hwide

/-- A 32-bit integer is converted to other types than integers as the 64-bit one is. -/
theorem convert?_toInt64 (n : Int32) (hint32 : type ≠ .int32) (hint64 : type ≠ .int64) :
    (int64 n.toInt64).convert? type = (int32 n).convert? type := by
  by_cases htext : type = .utf8
  · subst htext
    exact congrArg (fun i : Int => some (utf8 (toString i))) (Int32.toInt_toInt64 n)
  · by_cases hdouble : type = .float64
    · subst hdouble
      exact congrArg (fun i => some (float64 (Float.ofInt i))) (Int32.toInt_toInt64 n)
    · cases type with
      | utf8 | float64 | int32 | int64 => contradiction
      | time32 unit => cases unit <;> rfl
      | _ => rfl

/-- However a value is held, a promoted integer type reads the same integer from it. -/
theorem cast_promote_integer {source target : DataType} (htarget : target.PromotesTo wide)
    (hinteger : target = .int32 ∨ target = .int64) (hv : v ≠ null)
    (h : v.cast target = .ok w) : (v.promote source).cast wide = .ok (w.promote wide) := by
  have hwide : wide = .int32 ∨ wide = .int64 := by
    rcases htarget with rfl | ⟨-, rfl⟩
    · exact hinteger
    · exact Or.inr rfl
  rw [cast_integer_eq_ok_iff hinteger hv] at h
  obtain ⟨i, hi, hw⟩ := Option.bind_eq_some_iff.1 h
  rw [cast_integer_eq_ok_iff hwide (promote_ne_null source hv), Option.bind_eq_some_iff]
  refine ⟨i, ?_, ofInteger?_promote htarget hw⟩
  rw [← hi]
  exact apply_promote (f := integer?) (fun n => congrArg some (Int32.toInt_toInt64 n)) source v

/-- However a value is held, it is cast to another type than those of integers alike. -/
theorem cast_promote_of_ne {source : DataType} (hint32 : type ≠ .int32) (hint64 : type ≠ .int64)
    (h : v.cast type = .ok w) : (v.promote source).cast type = .ok w := by
  by_cases hsame : v.promote source = v
  · rwa [hsame]
  · -- Only a 32-bit integer is held in another way.
    cases v with
    | int32 n =>
      have hheld : (int32 n).promote source = int64 n.toInt64 :=
        if_pos (not_not.1 fun hne => hsame (promote_of_ne hne _))
      have hnarrow : int32 n ≠ null := nofun
      have hwide : int64 n.toInt64 ≠ null := nofun
      rw [cast_eq_ok_iff_convert? hnarrow (Ne.symm hint32)] at h
      rwa [hheld, cast_eq_ok_iff_convert? hwide (Ne.symm hint64),
        convert?_toInt64 n hint32 hint64]
    | null | boolean | int64 | float64 | utf8 | time => exact absurd rfl hsame

/-- However a value is held, it is cast to a promoted type where the value itself is cast to the
type, and the result is promoted. -/
theorem cast_promote {source target : DataType} (htarget : target.PromotesTo wide)
    (h : v.cast target = .ok w) : (v.promote source).cast wide = .ok (w.promote wide) := by
  by_cases hv : v = null
  · subst hv
    obtain rfl := Except.ok.inj h
    rfl
  · by_cases hinteger : target = .int32 ∨ target = .int64
    · exact cast_promote_integer htarget hinteger hv h
    · obtain ⟨hint32, hint64⟩ := not_or.1 hinteger
      obtain rfl := htarget.eq_of_ne hint32
      rw [promote_of_ne hint64]
      exact cast_promote_of_ne hint32 hint64 h

end Value

/-! ## Columns -/

namespace Schema

/-- The columns of a schema are promoted and keep their names. -/
def PromotesTo (schema wide : Schema) : Prop :=
  List.Forall₂ (fun field other => other.name = field.name ∧ field.type.PromotesTo other.type)
    schema.fields wide.fields

namespace PromotesTo

variable {schema wide : Schema}

/-- Promoted columns are as many. -/
theorem width_eq (h : schema.PromotesTo wide) : wide.width = schema.width := h.length_eq.symm

/-- Each column is promoted and keeps its name. -/
theorem fieldAt (h : schema.PromotesTo wide) (i : Nat) :
    (wide.fieldAt i).name = (schema.fieldAt i).name ∧
      (schema.fieldAt i).type.PromotesTo (wide.fieldAt i).type := by
  unfold Schema.fieldAt
  by_cases hi : i < schema.width
  · have hwide : i < wide.fields.length := h.length_eq ▸ hi
    rw [List.getElem?_eq_getElem hi, List.getElem?_eq_getElem hwide]
    exact h.get hi hwide
  · have hwide : ¬ i < wide.fields.length := h.length_eq ▸ hi
    rw [List.getElem?_eq_none (Nat.le_of_not_lt hi),
      List.getElem?_eq_none (Nat.le_of_not_lt hwide)]
    exact ⟨rfl, .refl _⟩

/-- The type of each column is promoted. -/
theorem typeAt (h : schema.PromotesTo wide) (i : Nat) :
    (schema.typeAt i).PromotesTo (wide.typeAt i) :=
  (h.fieldAt i).2

/-- The names stay. -/
theorem names_eq (h : schema.PromotesTo wide) : wide.names = schema.names := by
  have hnames : List.Forall₂ Eq wide.names schema.names := by
    unfold Schema.names
    rw [List.forall₂_map_left_iff, List.forall₂_map_right_iff]
    exact h.flip.imp fun _ _ hfield => hfield.1
  rwa [List.forall₂_eq_eq_eq] at hnames

/-- A reference means the same column. -/
theorem resolve_eq (h : schema.PromotesTo wide) (c : ColumnRef) :
    wide.resolve c = schema.resolve c :=
  resolve_congr h.names_eq c

end PromotesTo

end Schema

namespace Row

variable {schema wide : Schema}

/-- The row as it is held in promoted columns. -/
def promote (wide : Schema) (row : Row) : Row :=
  ⟨row.columns.mapIdx fun i v => v.promote (wide.typeAt i)⟩

/-- Each column of a promoted row is promoted. -/
@[simp] theorem get_promote (wide : Schema) (row : Row) (i : Nat) :
    (row.promote wide).get i = (row.get i).promote (wide.typeAt i) := by
  unfold get promote
  rw [List.getElem?_mapIdx]
  rcases row.columns[i]? with _ | v <;> rfl

/-- A promoted row fits the promoted columns. -/
theorem fits_promote {row : Row} (h : row.Fits schema) (hwide : schema.PromotesTo wide) :
    (row.promote wide).Fits wide := by
  intro i hi
  rw [get_promote]
  exact Value.fits_promote (h i (hwide.width_eq ▸ hi)) (hwide.typeAt i)

end Row

end StreamPlan
