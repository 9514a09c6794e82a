import StreamPlan.Binary64.Shortest
import StreamPlan.Text.Number

/-!
# Doubles as text

Writing a double with its shortest digits in a given layout, and reading one from
a decimal numeral.

Main results:

- `Layout`, `render`: how digits are laid out.
- `readDecimal?`: reading a numeral.
-/

namespace StreamPlan.Binary64

/-! ## Writing -/

/-- The sign of an exponent: a minus always, a plus only where it is asked for. -/
inductive ExponentSign where
  | onlyMinus
  | always
deriving DecidableEq, Repr

/-- How the digits of a double are laid out: positionally when the power of the
leading digit is at least `least` and below `bound`, otherwise with an exponent. -/
structure Layout where
  least : Int
  bound : Int
  tie : Tie
  sign : ExponentSign

/-- Values are positional from `0.0001` up to below `1e16`, and exponents have no plus. -/
def Layout.plain : Layout := ⟨-4, 16, .up, .onlyMinus⟩

/-- Positional digits with at least one digit on either side of the point;
the first digit has the power `leading`. -/
def positional (digits : List Char) (leading : Int) : List Char :=
  if leading < 0 then
    ['0', '.'] ++ List.replicate (-leading - 1).toNat '0' ++ digits
  else
    let whole := leading.toNat + 1
    let shown := digits ++ List.replicate (whole - digits.length) '0'
    let fraction := shown.drop whole
    shown.take whole ++ ['.'] ++ if fraction.isEmpty then ['0'] else fraction

/-- An exponent with its sign. -/
def exponentText (sign : ExponentSign) (power : Int) : List Char :=
  let digits := (toString power).toList
  match sign with
  | .always => if 0 ≤ power then '+' :: digits else digits
  | .onlyMinus => digits

/-- Digits with an exponent; a single digit has no point. -/
def scientific (sign : ExponentSign) (digits : List Char) (leading : Int) : List Char :=
  let mantissa :=
    match digits with
    | first :: second :: rest => first :: '.' :: second :: rest
    | short => short
  mantissa ++ ['e'] ++ exponentText sign leading

/-- The magnitude of a finite double. -/
def renderMagnitude (layout : Layout) (x : Float) : List Char :=
  if magnitude x = 0 then ['0', '.', '0']
  else
    let decimal := shortest layout.tie x
    let all := Nat.toDigits 10 decimal.digits
    let leading := decimal.power + (all.length : Int) - 1
    let digits := (all.reverse.dropWhile (· == '0')).reverse
    if layout.least ≤ leading && leading < layout.bound then positional digits leading
    else scientific layout.sign digits leading

/-- A double as text: `NaN` without sign, `inf`, or its shortest digits. -/
def render (layout : Layout) (x : Float) : String :=
  if isNaN x then "NaN"
  else
    let sign := if isNegative x then "-" else ""
    if isFinite x then sign ++ String.ofList (renderMagnitude layout x) else sign ++ "inf"

/-! ## Reading -/

/-- The double nearest to `digits * 10 ^ power`, with a sign. -/
def ofDecimal (negative : Bool) (digits : Nat) (power : Int) : Float :=
  if digits = 0 then zero negative
  else
    let leading := power + (digitCount digits : Int)
    if 310 < leading then infinity negative
    else if leading < -330 then zero negative
    else
      let x := Float.ofScientific digits (power < 0) power.natAbs
      if negative then -x else x

/-- The size that the digits of an exponent write: once `0x10000` is reached, digits that
follow are left out. -/
def exponentSize (digits : List Char) : Nat :=
  digits.foldl
    (fun size digit => if size < 0x10000 then Nat.ofDigitChars 10 [digit] size else size) 0

/-- The size of an exponent, which has at least one digit. -/
def readSize? (cs : List Char) : Option Nat :=
  if cs.isEmpty || !cs.all Char.isDigit then none else some (exponentSize cs)

/-- The exponent after a mantissa: absent, or a mark, an optional sign and digits. -/
def readExponent? : List Char → Option Int
  | [] => some 0
  | mark :: cs =>
    if mark = 'e' || mark = 'E' then
      match cs with
      | '-' :: digits => (readSize? digits).map fun size => -(size : Int)
      | '+' :: digits => (readSize? digits).map fun size => (size : Int)
      | digits => (readSize? digits).map fun size => (size : Int)
    else none

/-- An unsigned numeral: digits with an optional point, at least one digit, and an
optional exponent. -/
def readNumeral? (negative : Bool) (cs : List Char) : Option Float :=
  let whole := cs.takeWhile Char.isDigit
  let (fraction, rest) :=
    match cs.dropWhile Char.isDigit with
    | '.' :: tail => (tail.takeWhile Char.isDigit, tail.dropWhile Char.isDigit)
    | tail => ([], tail)
  if (whole ++ fraction).isEmpty then none
  else
    (readExponent? rest).map fun power =>
      ofDecimal negative (Nat.ofDigitChars 10 (whole ++ fraction) 0)
        (power - (fraction.length : Int))

/-- An unsigned numeral, or a name of infinity or of what is not a number in any case. -/
def readUnsigned? (negative : Bool) (cs : List Char) : Option Float :=
  let name := String.ofList (cs.map Char.toLower)
  if name = "inf" || name = "infinity" then some (infinity negative)
  else if name = "nan" then some (ofBits 0x7FF8000000000000)
  else readNumeral? negative cs

/-- A double from a decimal numeral with an optional sign, correctly rounded. -/
def readDecimal? : List Char → Option Float
  | '-' :: cs => readUnsigned? true cs
  | '+' :: cs => readUnsigned? false cs
  | cs => readUnsigned? false cs

end StreamPlan.Binary64
