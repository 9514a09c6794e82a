import StreamPlan.Binary64.Text
import StreamPlan.Json

/-!
# Numbers in JSON

Numerals have no leading zeros and no plus sign.  A numeral without point and
exponent is an integer while it fits sixty-four bits; all others are doubles.  The
double of a numeral is its significand, scaled by one power of ten.

Main results:

- `Json.ofNumeral?`: reading a numeral.
- `Json.numberText`: writing a double.
-/

namespace StreamPlan.Json

/-! ## Reading -/

/-- The number found so far with the digits that follow it, as many as fit sixty-four
bits, and the number of digits that are left over. -/
def significand (found : Nat) : List Char → Nat × Nat
  | [] => (found, 0)
  | digit :: rest =>
    let next := Nat.ofDigitChars 10 [digit] found
    if next < 0x10000000000000000 then significand next rest else (found, rest.length + 1)

/-- A power of ten as a double. -/
def tenTo (power : Nat) : Float := Float.ofScientific 1 false power

/-- A positive double scaled by a power of ten, in one multiplication or division; a
divisor beyond the doubles is split off first. -/
def scaled (x : Float) (power : Int) : Float :=
  if 0 ≤ power then x * tenTo power.toNat
  else if -308 ≤ power then x / tenTo (-power).toNat
  else if -616 ≤ power then x / tenTo 308 / tenTo (-power - 308).toNat
  else 0

/-- The double of a numeral with digits before and behind the point; a numeral beyond the
doubles has none. -/
def ofScaled? (negative : Bool) (whole fraction : List Char) (power : Int) : Option Json :=
  let (before, dropped) := significand 0 whole
  let (digits, cut) := significand before fraction
  let power := power + (dropped : Int) + (cut : Int) - (fraction.length : Int)
  if digits = 0 then some (double (Binary64.zero negative))
  else if 308 < power then none
  else
    let x := scaled (Float.ofNat digits) power
    if Binary64.isFinite x then some (double (if negative then -x else x)) else none

/-- An integer numeral: an integer while it fits sixty-four bits, except a negative zero. -/
def ofWhole? (negative : Bool) (digits : List Char) : Option Json :=
  let n := Nat.ofDigitChars 10 digits 0
  if negative then
    if n = 0 ∨ 0x8000000000000000 < n then ofScaled? true digits [] 0 else some (int (-(n : Int)))
  else if n < 0x10000000000000000 then some (int n)
  else ofScaled? false digits [] 0

/-- Whether digits stand for a number without superfluous zeros in front. -/
def isWhole : List Char → Bool
  | ['0'] => true
  | digits => !digits.isEmpty && digits.all Char.isDigit && digits.head? != some '0'

/-- The digits after a point, if there is one, and what follows them. -/
def takeFraction? : List Char → Option (List Char × List Char)
  | '.' :: cs =>
    let digits := cs.takeWhile Char.isDigit
    if digits.isEmpty then none else some (digits, cs.dropWhile Char.isDigit)
  | cs => some ([], cs)

/-- The power of ten after the digits: absent, or a mark followed by an integer. -/
def readPower? : List Char → Option Int
  | [] => some 0
  | mark :: cs => if mark = 'e' || mark = 'E' then Text.readInt? cs else none

/-- An unsigned numeral. -/
def ofUnsigned? (negative : Bool) (cs : List Char) : Option Json := do
  let whole := cs.takeWhile Char.isDigit
  let rest := cs.dropWhile Char.isDigit
  if !isWhole whole then none
  else if rest.isEmpty then ofWhole? negative whole
  else
    let (fraction, rest) ← takeFraction? rest
    let power ← readPower? rest
    ofScaled? negative whole fraction power

/-- The number that a numeral writes. -/
def ofNumeral? : List Char → Option Json
  | '-' :: cs => ofUnsigned? true cs
  | cs => ofUnsigned? false cs

/-! ## Writing -/

/-- Doubles are positional from `0.00001` up to below `1e16`, an exponent always has its
sign, and of two equally near decimals the even one is taken. -/
def layout : Binary64.Layout := ⟨-5, 16, .even, .always⟩

/-- The text of a double; one that is no finite number is written as null. -/
def numberText (x : Float) : String :=
  if Binary64.isFinite x then Binary64.render layout x else "null"

/-- A natural number of sixty-four bits is read back from its digits. -/
theorem ofWhole?_toDigits {n : Nat} (h : n < 0x10000000000000000) :
    ofWhole? false (Nat.toDigits 10 n) = some (int n) := by
  have hn : Nat.ofDigitChars 10 (Nat.toDigits 10 n) 0 = n :=
    Nat.ofDigitChars_toDigits (by omega) (by omega)
  simp only [ofWhole?, hn, Bool.false_eq_true, if_false, if_pos h]

end StreamPlan.Json
