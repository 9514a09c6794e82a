import StreamPlan.Cast
import StreamPlan.Proofs.TimeOfDay.Reading

/-!
# The grammar of times of day

A time of day is spelled by two digits each for hours, minutes and seconds, of which the seconds
may be left out, and by one to three digits of a fraction, which needs the seconds.  The reader of
times looks for the first point, takes the text before it apart and checks the pieces; what it
accepts are exactly the spellings, with blanks around them.

Main results:

- `TimeOfDay.Spells`: the spellings of a time of day.
- `TimeOfDay.spells_iff`: spellings are what is read in two parts, before and after the point.
- `TimeOfDay.parse?_eq_some_iff`: what the reader accepts, and what it makes of it.
- `Literal.readsSpellings`: time literals.
-/

namespace StreamPlan.Text

/-- Trimming takes blanks off both ends. -/
theorem exists_blanks_trim (cs : List Char) :
    ∃ before after, cs = before ++ trim cs ++ after ∧
      (∀ c ∈ before, isBlank c = true) ∧ ∀ c ∈ after, isBlank c = true := by
  have hstart := List.takeWhile_append_dropWhile (p := isBlank) (l := cs)
  have hend := congrArg List.reverse
    (List.takeWhile_append_dropWhile (p := isBlank) (l := (cs.dropWhile isBlank).reverse))
  rw [List.reverse_append, List.reverse_reverse] at hend
  refine ⟨cs.takeWhile isBlank, ((cs.dropWhile isBlank).reverse.takeWhile isBlank).reverse,
    ?_, ?_, ?_⟩
  · rw [trim, trimEnd, List.append_assoc, hend, hstart]
  · intro c hc
    exact List.mem_takeWhile_imp hc
  · intro c hc
    exact List.mem_takeWhile_imp (List.mem_reverse.1 hc)

/-- A text without blanks is what trimming leaves of it between blanks. -/
theorem trim_between_blanks {before cs after : List Char}
    (hbefore : ∀ c ∈ before, isBlank c = true) (hcs : ∀ c ∈ cs, isBlank c = false)
    (hafter : ∀ c ∈ after, isBlank c = true) : trim (before ++ cs ++ after) = cs := by
  rw [trim, List.append_assoc, List.dropWhile_append_of_pos hbefore]
  cases cs with
  | nil =>
    rw [List.nil_append, List.dropWhile_eq_nil_iff.2 hafter]
    rfl
  | cons c cs =>
    have hkeep : trim (c :: cs) = trimEnd (c :: cs) := by simp [trim, hcs c List.mem_cons_self]
    rw [List.cons_append, List.dropWhile_cons_of_neg (by simp [hcs c List.mem_cons_self]),
      ← List.cons_append, trimEnd_append_blanks _ _ hafter, ← hkeep, trim_eq_self hcs]

end StreamPlan.Text

namespace StreamPlan.TimeOfDay

open Text

/-! ## Spellings -/

/-- One to three digits and the milliseconds that they write as the fraction of a second: each
missing digit counts as a zero on the right. -/
structure Fraction (millis : Nat) (digits : List Char) : Prop where
  nonempty : 1 ≤ digits.length
  length_le : digits.length ≤ 3
  isDigit : ∀ c ∈ digits, c.isDigit = true
  value : Nat.ofDigitChars 10 digits 0 * 10 ^ (3 - digits.length) = millis

/-- The spellings of a time of day, with the number of milliseconds since midnight. -/
inductive Spells : List Char → Nat → Prop
  /-- `HH:MM` -/
  | minutes {h m : Nat} {h1 h2 m1 m2 : Char} (hours : TwoDigits h h1 h2) (hours_le : h ≤ 23)
      (minutes : TwoDigits m m1 m2) (minutes_le : m ≤ 59) :
      Spells [h1, h2, ':', m1, m2] ((h * 60 + m) * 60 * 1000)
  /-- `HH:MM:SS` -/
  | seconds {h m s : Nat} {h1 h2 m1 m2 s1 s2 : Char} (hours : TwoDigits h h1 h2)
      (hours_le : h ≤ 23) (minutes : TwoDigits m m1 m2) (minutes_le : m ≤ 59)
      (seconds : TwoDigits s s1 s2) (seconds_le : s ≤ 59) :
      Spells [h1, h2, ':', m1, m2, ':', s1, s2] (((h * 60 + m) * 60 + s) * 1000)
  /-- `HH:MM:SS.f` -/
  | fraction {h m s millis : Nat} {h1 h2 m1 m2 s1 s2 : Char} {digits : List Char}
      (hours : TwoDigits h h1 h2) (hours_le : h ≤ 23) (minutes : TwoDigits m m1 m2)
      (minutes_le : m ≤ 59) (seconds : TwoDigits s s1 s2) (seconds_le : s ≤ 59)
      (fraction : Fraction millis digits) :
      Spells ([h1, h2, ':', m1, m2, ':', s1, s2] ++ '.' :: digits)
        (((h * 60 + m) * 60 + s) * 1000 + millis)

/-- The text spells the number of milliseconds, with blanks around the spelling. -/
def SpelledBetweenBlanks (cs : List Char) (millis : Nat) : Prop :=
  ∃ before time after, cs = before ++ time ++ after ∧ (∀ c ∈ before, isBlank c = true) ∧
    (∀ c ∈ after, isBlank c = true) ∧ Spells time millis

/-! ## Digits -/

/-- The reader of two digits accepts numbers up to its limit. -/
theorem twoDigits?_eq_some_iff {limit n : Nat} {tens ones : Char} :
    twoDigits? limit tens ones = some n ↔ TwoDigits n tens ones ∧ n ≤ limit := by
  constructor
  · intro h
    have hle := twoDigits?_le h
    unfold twoDigits? at h
    split at h
    · rename_i hc
      simp only [Bool.and_eq_true, decide_eq_true_eq] at hc
      exact ⟨⟨hc.1.1, hc.1.2, Option.some.inj h⟩, hle⟩
    · cases h
  · rintro ⟨hdigits, hle⟩
    exact hdigits.read limit hle

/-- The reader of fractions accepts one to three digits. -/
theorem fraction?_eq_some_iff {digits : List Char} {millis : Nat} :
    fraction? digits = some millis ↔ Fraction millis digits := by
  unfold fraction?
  rw [Nat.ofDigitChars_append, Nat.ofDigitChars_replicate_zero, Nat.mul_comm]
  constructor
  · intro h
    split at h
    · rename_i hc
      simp only [Bool.and_eq_true, decide_eq_true_eq, List.all_eq_true] at hc
      exact ⟨hc.1.1, hc.1.2, hc.2, Option.some.inj h⟩
    · cases h
  · intro h
    rw [if_pos, h.value]
    simpa using ⟨⟨h.nonempty, h.length_le⟩, h.isDigit⟩

/-! ## Clock readings -/

/-- A clock reading with its fraction, if there is one. -/
def withFraction (clock : List Char) : Option (List Char) → List Char
  | none => clock
  | some digits => clock ++ '.' :: digits

/-- The spellings are what is read in two parts. -/
theorem spells_iff {time : List Char} {n : Nat} :
    Spells time n ↔
      ∃ clock fraction, time = withFraction clock fraction ∧ ofParts? clock fraction = some n := by
  constructor
  · intro h
    cases h with
    | minutes hours hours_le minutes minutes_le =>
      refine ⟨_, none, rfl, ?_⟩
      simp [ofParts?, hours.read _ hours_le, minutes.read _ minutes_le]
    | seconds hours hours_le minutes minutes_le seconds seconds_le =>
      refine ⟨_, none, rfl, ?_⟩
      simp [ofParts?, fractionMillis?, hours.read _ hours_le, minutes.read _ minutes_le,
        seconds.read _ seconds_le]
    | fraction hours hours_le minutes minutes_le seconds seconds_le fraction =>
      refine ⟨_, some _, rfl, ?_⟩
      simp [ofParts?, fractionMillis?, hours.read _ hours_le, minutes.read _ minutes_le,
        seconds.read _ seconds_le, fraction?_eq_some_iff.2 fraction]
  · rintro ⟨clock, fraction, rfl, h⟩
    unfold ofParts? at h
    split at h
    · simp only [Option.bind_eq_bind, Option.bind_eq_some_iff, twoDigits?_eq_some_iff] at h
      obtain ⟨hours, ⟨hh, hhle⟩, minutes, ⟨hm, hmle⟩, hn⟩ := h
      cases fraction with
      | none =>
        obtain rfl := Option.some.inj hn
        exact .minutes hh hhle hm hmle
      | some digits => cases hn
    · simp only [Option.bind_eq_bind, Option.bind_eq_some_iff, twoDigits?_eq_some_iff] at h
      obtain ⟨hours, ⟨hh, hhle⟩, minutes, ⟨hm, hmle⟩, seconds, ⟨hs, hsle⟩, millis, hf, hn⟩ := h
      obtain rfl := Option.some.inj hn
      cases fraction with
      | none =>
        obtain rfl : 0 = millis := Option.some.inj hf
        rw [Nat.add_zero]
        exact .seconds hh hhle hm hmle hs hsle
      | some digits =>
        exact .fraction hh hhle hm hmle hs hsle (fraction?_eq_some_iff.1 hf)
    · cases h

/-- Two digits are no points. -/
theorem TwoDigits.not_point {n : Nat} {tens ones : Char} (h : TwoDigits n tens ones) :
    '.' ≠ tens ∧ '.' ≠ ones := by
  have hdigit : ∀ c : Char, c.isDigit = true → '.' ≠ c := fun c hc heq => by simp [← heq] at hc
  exact ⟨hdigit _ h.isDigit_tens, hdigit _ h.isDigit_ones⟩

/-- A clock reading holds no point. -/
theorem point_notMem_of_ofParts? {clock : List Char} {fraction : Option (List Char)} {n : Nat}
    (h : ofParts? clock fraction = some n) : '.' ∉ clock := by
  unfold ofParts? at h
  split at h
  · simp only [Option.bind_eq_bind, Option.bind_eq_some_iff, twoDigits?_eq_some_iff] at h
    obtain ⟨_, ⟨hh, -⟩, _, ⟨hm, -⟩, -⟩ := h
    simp [hh.not_point, hm.not_point]
  · simp only [Option.bind_eq_bind, Option.bind_eq_some_iff, twoDigits?_eq_some_iff] at h
    obtain ⟨_, ⟨hh, -⟩, _, ⟨hm, -⟩, _, ⟨hs, -⟩, -⟩ := h
    simp [hh.not_point, hm.not_point, hs.not_point]
  · cases h

/-- What is read is what the text without the blanks around it spells. -/
theorem parse?_eq_some_iff_trim {cs : List Char} {n : Nat} :
    parse? cs = some n ↔ Spells (trim cs) n := by
  rw [spells_iff]
  unfold parse?
  dsimp only
  constructor
  · intro h
    split at h
    · rename_i clock digits hsplit
      exact ⟨clock, some digits, (splitFirst_eq_some.1 hsplit).1, h⟩
    · exact ⟨trim cs, none, rfl, h⟩
  · rintro ⟨clock, fraction, hcs, h⟩
    have hpoint := point_notMem_of_ofParts? h
    rw [hcs]
    cases fraction with
    | none =>
      rw [withFraction, splitFirst_eq_none_iff.2 hpoint]
      exact h
    | some digits =>
      rw [withFraction, splitFirst_eq_some.2 ⟨rfl, hpoint⟩]
      exact h

/-! ## Blanks around a spelling -/

/-- Two digits are no blanks. -/
theorem TwoDigits.not_isBlank {n : Nat} {tens ones : Char} (h : TwoDigits n tens ones) :
    isBlank tens = false ∧ isBlank ones = false :=
  ⟨not_isBlank_of_isDigit h.isDigit_tens, not_isBlank_of_isDigit h.isDigit_ones⟩

/-- No character of a spelling is a blank. -/
theorem Spells.not_isBlank {time : List Char} {n : Nat} (h : Spells time n) :
    ∀ c ∈ time, isBlank c = false := by
  have hcolon : isBlank ':' = false := rfl
  have hpoint : isBlank '.' = false := rfl
  cases h with
  | minutes hours _ minutes _ => simp [hours.not_isBlank, minutes.not_isBlank, hcolon]
  | seconds hours _ minutes _ seconds _ =>
    simp [hours.not_isBlank, minutes.not_isBlank, seconds.not_isBlank, hcolon]
  | fraction hours _ minutes _ seconds _ fraction =>
    have hdigits := fun c hc => not_isBlank_of_isDigit (fraction.isDigit c hc)
    simpa [hours.not_isBlank, minutes.not_isBlank, seconds.not_isBlank, hcolon, hpoint]
      using hdigits

/-- The text without the blanks around it is a spelling exactly when the text is one with blanks
around it. -/
theorem spelledBetweenBlanks_iff {cs : List Char} {n : Nat} :
    SpelledBetweenBlanks cs n ↔ Spells (trim cs) n := by
  constructor
  · rintro ⟨before, time, after, rfl, hbefore, hafter, hspells⟩
    rwa [trim_between_blanks hbefore hspells.not_isBlank hafter]
  · intro h
    obtain ⟨before, after, hcs, hbefore, hafter⟩ := exists_blanks_trim cs
    exact ⟨before, trim cs, after, hcs, hbefore, hafter, h⟩

/-- The reader accepts the spellings with blanks around them, and nothing else. -/
theorem parse?_eq_some_iff {cs : List Char} {n : Nat} :
    parse? cs = some n ↔ SpelledBetweenBlanks cs n := by
  rw [parse?_eq_some_iff_trim, spelledBetweenBlanks_iff]

/-- A fraction of one digit counts tenths of a second. -/
example : parse? " 09:05:00.5\n".toList = some 32700500 := by decide

end StreamPlan.TimeOfDay

namespace StreamPlan

open TimeOfDay

/-! ## Time literals -/

/-- What becomes of a time literal with the text. -/
structure Literal.ReadsSpellings (s : String) : Prop where
  /-- The literal has a value exactly when its text spells a time of day between blanks, and the
  value is the number of milliseconds that the text spells. -/
  value_iff : ∀ v, (Literal.time s).toValue = .ok v ↔
    ∃ n millis, SpelledBetweenBlanks s.toList n ∧ v = .time millis ∧ millis.toInt = n
  /-- Any other text is refused as no time of day. -/
  refused : (¬ ∃ n, SpelledBetweenBlanks s.toList n) →
    (Literal.time s).toValue = .error (.typing (.invalidTime s))
  /-- The value lies within the day, and its text is read as the value again. -/
  withinDay : ∀ millis, (Literal.time s).toValue = .ok (.time millis) →
    0 ≤ millis.toInt ∧ millis.toInt < 86400000 ∧
      (Literal.time (Value.time millis).text).toValue = .ok (.time millis)
  /-- A string that is cast to a time of day is read like the text of a literal. -/
  cast_iff : ∀ v, (Value.utf8 s).cast .timeOfDay = .ok v ↔ (Literal.time s).toValue = .ok v

/-- A spelled time of day fits a machine word. -/
theorem exists_int32_of_parse? {cs : List Char} {n : Nat} (h : parse? cs = some n) :
    ∃ millis : Int32, Word.int32? n = some millis ∧ millis.toInt = n := by
  have hday := parse?_lt_day h
  unfold millisPerDay at hday
  have hword : Word.int32? n = some (Int32.ofInt n) := if_pos (by omega)
  exact ⟨_, hword, Word.int32?_eq_some_iff.1 hword⟩

/-- A time literal has the value that the reader finds in its text. -/
theorem Literal.toValue_time_eq_ok_iff {s : String} {v : Value} :
    (Literal.time s).toValue = .ok v ↔
      ∃ n millis, parse? s.toList = some n ∧ v = .time millis ∧ millis.toInt = n := by
  cases hparse : parse? s.toList with
  | none =>
    rw [Literal.toValue, hparse, Option.bind_none]
    simp
  | some n =>
    obtain ⟨millis, hword, hmillis⟩ := exists_int32_of_parse? hparse
    have hvalue : (Literal.time s).toValue = .ok (.time millis) := by
      rw [Literal.toValue, hparse, Option.bind_some, hword]
    rw [hvalue, Except.ok.injEq]
    constructor
    · rintro rfl
      exact ⟨n, millis, rfl, rfl, hmillis⟩
    · rintro ⟨_, millis', hn, rfl, hmillis'⟩
      obtain rfl := Option.some.inj hn
      rw [Int32.toInt_inj.1 (hmillis.trans hmillis'.symm)]

/-- A string is converted to the time that the reader finds in it. -/
theorem Value.convert?_utf8_timeOfDay (s : String) :
    (Value.utf8 s).convert? .timeOfDay =
      ((parse? s.toList).bind fun n => Word.int32? n).map .time := rfl

/-- Time literals are read exactly by the grammar of times of day. -/
theorem Literal.readsSpellings (s : String) : Literal.ReadsSpellings s where
  value_iff v := by simp only [toValue_time_eq_ok_iff, parse?_eq_some_iff]
  refused h := by
    have hnone : parse? s.toList = none := by
      rw [Option.eq_none_iff_forall_ne_some]
      intro n hn
      exact h ⟨n, parse?_eq_some_iff.1 hn⟩
    rw [Literal.toValue, hnone, Option.bind_none]
  withinDay millis h := by
    obtain ⟨n, _, hparse, hv, hmillis⟩ := toValue_time_eq_ok_iff.1 h
    obtain rfl := Value.time.inj hv
    have hday := parse?_lt_day hparse
    unfold millisPerDay at hday
    refine ⟨by omega, by omega, ?_⟩
    rw [toValue_time_eq_ok_iff]
    refine ⟨n, millis, ?_, rfl, hmillis⟩
    rw [Value.text, hmillis]
    exact parse?_text (parse?_lt_day hparse)
  cast_iff v := by
    rw [Value.cast, if_neg (by simp [Value.isNull, Value.dataType, DataType.timeOfDay]),
      Literal.toValue, Value.convert?_utf8_timeOfDay]
    cases (parse? s.toList).bind fun n => Word.int32? n <;> simp

end StreamPlan
