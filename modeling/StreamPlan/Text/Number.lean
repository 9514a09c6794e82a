/-!
# Decimal integers

Integers in decimal: reading them with a sign, and writing them to a width.

Main results:

- `readNat?_toDigits`: the digits of a number read back to it.
- `toList_toString_ofNat`, `toList_toString_negSucc`: the characters of a written integer.
- `readInt?_toString`: a written integer reads back to itself.
-/

namespace StreamPlan.Text

/-- The number that a nonempty list of ASCII digits writes. -/
def readNat? (cs : List Char) : Option Nat :=
  if cs.isEmpty || !cs.all Char.isDigit then none else some (Nat.ofDigitChars 10 cs 0)

/-- A number with an optional plus sign. -/
def readUnsigned? : List Char → Option Nat
  | '+' :: cs => readNat? cs
  | cs => readNat? cs

/-- An integer with an optional sign. -/
def readInt? : List Char → Option Int
  | '-' :: cs => (readNat? cs).map fun n => -(n : Int)
  | '+' :: cs => (readNat? cs).map fun n => (n : Int)
  | cs => (readNat? cs).map fun n => (n : Int)

/-- The digits of a number are digits. -/
theorem all_isDigit_toDigits (n : Nat) : (Nat.toDigits 10 n).all Char.isDigit = true :=
  List.all_eq_true.2 fun _ hc => Nat.isDigit_of_mem_toDigits (by decide) (by decide) hc

/-- The digits of a number read back to it. -/
theorem readNat?_toDigits (n : Nat) : readNat? (Nat.toDigits 10 n) = some n := by
  have hall := all_isDigit_toDigits n
  have hne : (Nat.toDigits 10 n).isEmpty = false := by
    cases h : Nat.toDigits 10 n with
    | nil => exact absurd h Nat.toDigits_ne_nil
    | cons => rfl
  simp [readNat?, hall, hne, Nat.ofDigitChars_toDigits]

/-- A sign is not a digit, so a number without sign is read as it stands. -/
theorem readInt?_digits {cs : List Char} (h : cs.all Char.isDigit = true) :
    readInt? cs = (readNat? cs).map fun n => (n : Int) := by
  match cs with
  | [] => rfl
  | c :: rest =>
    have hc : c.isDigit = true := by
      simp only [List.all_cons, Bool.and_eq_true] at h
      exact h.1
    by_cases hm : c = '-'
    · subst hm
      exact absurd hc (by decide)
    · by_cases hp : c = '+'
      · subst hp
        exact absurd hc (by decide)
      · unfold readInt?
        split
        · simp_all
        · simp_all
        · rfl

/-- A natural number is written as its digits. -/
theorem toList_toString_ofNat (n : Nat) : (toString (Int.ofNat n)).toList = Nat.toDigits 10 n := by
  change (Nat.repr n).toList = _
  rw [Nat.toList_repr]

/-- A negative number is written as its digits behind a sign. -/
theorem toList_toString_negSucc (n : Nat) :
    (toString (Int.negSucc n)).toList = '-' :: Nat.toDigits 10 (n + 1) := by
  change ("-" ++ Nat.repr (n + 1)).toList = _
  rw [String.toList_append, Nat.toList_repr]
  rfl

/-- A written integer reads back to itself. -/
theorem readInt?_toString (n : Int) : readInt? (toString n).toList = some n := by
  cases n with
  | ofNat m =>
    rw [toList_toString_ofNat, readInt?_digits (all_isDigit_toDigits m), readNat?_toDigits]
    rfl
  | negSucc m =>
    rw [toList_toString_negSucc]
    simp only [readInt?, readNat?_toDigits]
    rfl

/-- An integer of at least `width` characters: zeros fill up between sign and digits. -/
def padded (width : Nat) (n : Int) : String :=
  let sign := if n < 0 then "-" else ""
  let digits := Nat.repr n.natAbs
  sign ++ String.ofList (List.replicate (width - sign.length - digits.length) '0') ++ digits

end StreamPlan.Text
