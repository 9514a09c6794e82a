import StreamPlan.Text.Blank
import StreamPlan.Text.Number
import StreamPlan.Text.Split

/-!
# Times of day

A time of day is a number of milliseconds since midnight.  It is written as
hours, minutes and seconds, with milliseconds when there are any, and read from
`HH:MM`, `HH:MM:SS` or `HH:MM:SS.f` with one to three fraction digits.

Main results:

- `parse?`: reading a time of day.
- `text`: writing one; a number of milliseconds outside the day is written by the
  same rule, each part with its sign.
- `parse?_lt_day`: what is read lies within the day.
-/

namespace StreamPlan.TimeOfDay

/-- Milliseconds of a day. -/
def millisPerDay : Nat := 86400000

/-- The number that two ASCII digits write, when it is at most `limit`. -/
def twoDigits? (limit : Nat) (tens ones : Char) : Option Nat :=
  if tens.isDigit && ones.isDigit && Nat.ofDigitChars 10 [tens, ones] 0 ≤ limit then
    some (Nat.ofDigitChars 10 [tens, ones] 0)
  else none

/-- Milliseconds written by one to three fraction digits. -/
def fraction? (digits : List Char) : Option Nat :=
  if 1 ≤ digits.length && digits.length ≤ 3 && digits.all Char.isDigit then
    some (Nat.ofDigitChars 10 (digits ++ List.replicate (3 - digits.length) '0') 0)
  else none

/-- Milliseconds of a fraction that may be absent. -/
def fractionMillis? : Option (List Char) → Option Nat
  | none => some 0
  | some digits => fraction? digits

/-- Milliseconds of a clock reading and its fraction; a fraction needs seconds. -/
def ofParts? (clock : List Char) (fraction : Option (List Char)) : Option Nat :=
  match clock with
  | [h1, h2, ':', m1, m2] => do
    let hours ← twoDigits? 23 h1 h2
    let minutes ← twoDigits? 59 m1 m2
    if fraction.isSome then none else some ((hours * 60 + minutes) * 60 * 1000)
  | [h1, h2, ':', m1, m2, ':', s1, s2] => do
    let hours ← twoDigits? 23 h1 h2
    let minutes ← twoDigits? 59 m1 m2
    let seconds ← twoDigits? 59 s1 s2
    let millis ← fractionMillis? fraction
    some (((hours * 60 + minutes) * 60 + seconds) * 1000 + millis)
  | _ => none

/-- Milliseconds since midnight of a time of day between blanks. -/
def parse? (cs : List Char) : Option Nat :=
  let cs := Text.trim cs
  match Text.splitFirst '.' cs with
  | some (clock, fraction) => ofParts? clock (some fraction)
  | none => ofParts? cs none

/-- A number of milliseconds as hours, minutes, seconds and any milliseconds. -/
def text (millis : Int) : String :=
  let hours := millis.tdiv 3600000
  let minutes := (millis.tmod 3600000).tdiv 60000
  let seconds := (millis.tmod 60000).tdiv 1000
  let rest := millis.tmod 1000
  let clock :=
    Text.padded 2 hours ++ ":" ++ Text.padded 2 minutes ++ ":" ++ Text.padded 2 seconds
  if rest = 0 then clock else clock ++ "." ++ Text.padded 3 rest

/-! ## What is read lies within the day -/

/-- Two digits stay below their limit. -/
theorem twoDigits?_le {limit n : Nat} {tens ones : Char}
    (h : twoDigits? limit tens ones = some n) : n ≤ limit := by
  unfold twoDigits? at h
  split at h
  · rename_i hc
    obtain rfl := Option.some.inj h
    simp only [Bool.and_eq_true, decide_eq_true_eq] at hc
    exact hc.2
  · cases h

/-- Three digits write less than a thousand. -/
theorem ofDigitChars_three_lt {a b c : Char} (ha : a.isDigit) (hb : b.isDigit)
    (hc : c.isDigit) : Nat.ofDigitChars 10 [a, b, c] 0 < 1000 := by
  have hlt : ∀ d : Char, d.isDigit = true → d.toNat - '0'.toNat < 10 := by
    intro d hd
    simp only [Char.isDigit, ge_iff_le, Bool.and_eq_true, decide_eq_true_eq,
      UInt32.le_iff_toNat_le] at hd
    have h9 : '9'.val.toNat = 57 := rfl
    have h0 : '0'.toNat = 48 := rfl
    have : d.toNat = d.val.toNat := rfl
    omega
  have h1 := hlt a ha
  have h2 := hlt b hb
  have h3 := hlt c hc
  simp only [Nat.ofDigitChars_cons, Nat.ofDigitChars_nil]
  omega

/-- A fraction is less than a second. -/
theorem fraction?_lt {digits : List Char} {n : Nat} (h : fraction? digits = some n) :
    n < 1000 := by
  unfold fraction? at h
  split at h
  · rename_i hc
    obtain rfl := Option.some.inj h
    simp only [Bool.and_eq_true, decide_eq_true_eq] at hc
    obtain ⟨⟨hlo, hhi⟩, hall⟩ := hc
    match digits, hlo, hhi, hall with
    | [a], _, _, hall =>
      simp only [List.all_cons, List.all_nil, Bool.and_true] at hall
      exact ofDigitChars_three_lt hall rfl rfl
    | [a, b], _, _, hall =>
      simp only [List.all_cons, List.all_nil, Bool.and_true, Bool.and_eq_true] at hall
      exact ofDigitChars_three_lt hall.1 hall.2 rfl
    | [a, b, c], _, _, hall =>
      simp only [List.all_cons, List.all_nil, Bool.and_true, Bool.and_eq_true] at hall
      exact ofDigitChars_three_lt hall.1 hall.2.1 hall.2.2
  · cases h

/-- A clock reading lies within the day. -/
theorem ofParts?_lt_day {clock : List Char} {fraction : Option (List Char)} {n : Nat}
    (h : ofParts? clock fraction = some n) : n < millisPerDay := by
  unfold ofParts? at h
  split at h
  · simp only [Option.bind_eq_bind, Option.bind_eq_some_iff] at h
    obtain ⟨hours, hh, minutes, hm, hn⟩ := h
    split at hn
    · cases hn
    · obtain rfl := Option.some.inj hn
      have := twoDigits?_le hh
      have := twoDigits?_le hm
      simp only [millisPerDay]
      omega
  · simp only [Option.bind_eq_bind, Option.bind_eq_some_iff] at h
    obtain ⟨hours, hh, minutes, hm, seconds, hs, millis, hf, hn⟩ := h
    obtain rfl := Option.some.inj hn
    have := twoDigits?_le hh
    have := twoDigits?_le hm
    have := twoDigits?_le hs
    have : millis < 1000 := by
      cases fraction with
      | none =>
        obtain rfl := Option.some.inj hf
        omega
      | some digits => exact fraction?_lt hf
    simp only [millisPerDay]
    omega
  · cases h

/-- What is read lies within the day. -/
theorem parse?_lt_day {cs : List Char} {n : Nat} (h : parse? cs = some n) :
    n < millisPerDay := by
  unfold parse? at h
  dsimp only at h
  split at h <;> exact ofParts?_lt_day h

end StreamPlan.TimeOfDay
