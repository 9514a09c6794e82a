import Mathlib.Algebra.Group.Nat.Defs
import Mathlib.Data.List.Basic
import Mathlib.Data.List.TakeWhile
import StreamPlan.TimeOfDay

/-!
# Written times of day

A written time of day is a row of padded integers, and each of them reads back, with its
sign.  The text therefore determines the number of milliseconds, within the day and outside
it.  Within the day the parts have two digits each, and the fraction three, so that the
reader of times takes the text back to the number.

Main results:

- `readInt?_padded`: a padded integer reads back to itself.
- `text_injective`: different times have different texts.
- `parse?_text`: a time within the day reads back to itself.
-/

namespace StreamPlan.Text

/-- The characters of a padded integer: a sign, zeros and digits. -/
theorem toList_padded (width : Nat) (n : Int) :
    (padded width n).toList = (if n < 0 then ['-'] else []) ++
      (List.replicate (width - (if n < 0 then 1 else 0) - (Nat.toDigits 10 n.natAbs).length) '0' ++
        Nat.toDigits 10 n.natAbs) := by
  have hlength : (Nat.repr n.natAbs).length = (Nat.toDigits 10 n.natAbs).length := by
    rw [← String.length_toList, Nat.toList_repr]
  unfold padded
  dsimp only
  rw [String.toList_append, String.toList_append, String.toList_ofList, Nat.toList_repr, hlength,
    List.append_assoc]
  split <;> rfl

/-- The digits of a number behind zeros are digits. -/
theorem isDigit_of_mem_zeros_digits {zeros n : Nat} {c : Char}
    (h : c ∈ List.replicate zeros '0' ++ Nat.toDigits 10 n) : c.isDigit = true := by
  rcases List.mem_append.1 h with h | h
  · rw [List.eq_of_mem_replicate h]
    rfl
  · exact List.all_eq_true.1 (all_isDigit_toDigits n) c h

/-- The digits of a number behind zeros write the number. -/
theorem ofDigitChars_zeros_digits (zeros n : Nat) :
    Nat.ofDigitChars 10 (List.replicate zeros '0' ++ Nat.toDigits 10 n) 0 = n := by
  rw [Nat.ofDigitChars_append, Nat.ofDigitChars_replicate_zero, Nat.mul_zero,
    Nat.ofDigitChars_ten_toDigits]

/-- The digits of a number behind zeros read back to it. -/
theorem readNat?_zeros_digits (zeros n : Nat) :
    readNat? (List.replicate zeros '0' ++ Nat.toDigits 10 n) = some n := by
  have hall : (List.replicate zeros '0' ++ Nat.toDigits 10 n).all Char.isDigit = true :=
    List.all_eq_true.2 fun c hc => isDigit_of_mem_zeros_digits hc
  have hne : (List.replicate zeros '0' ++ Nat.toDigits 10 n).isEmpty = false := by
    rw [List.isEmpty_eq_false_iff]
    simp [Nat.toDigits_ne_nil]
  unfold readNat?
  rw [hall, hne, ofDigitChars_zeros_digits]
  rfl

/-- A padded integer reads back to itself. -/
theorem readInt?_padded (width : Nat) (n : Int) :
    readInt? (padded width n).toList = some n := by
  rw [toList_padded]
  split
  · have hread : readInt? (['-'] ++ (List.replicate (width - 1 - (Nat.toDigits 10 n.natAbs).length)
        '0' ++ Nat.toDigits 10 n.natAbs)) = some (-(n.natAbs : Int)) := by
      rw [List.singleton_append]
      simp only [readInt?, readNat?_zeros_digits]
      rfl
    rw [hread]
    congr 1
    omega
  · rw [List.nil_append, readInt?_digits, readNat?_zeros_digits]
    · change some (n.natAbs : Int) = some n
      congr 1
      omega
    · exact List.all_eq_true.2 fun c hc => isDigit_of_mem_zeros_digits hc

/-- Padding adds no separator. -/
theorem not_mem_padded {c : Char} (hc : c.isDigit = false) (hminus : c ≠ '-') (width : Nat)
    (n : Int) : c ∉ (padded width n).toList := by
  rw [toList_padded]
  intro h
  rcases List.mem_append.1 h with h | h
  · split at h <;> simp_all
  · simp [isDigit_of_mem_zeros_digits h] at hc

/-- A digit is not a blank. -/
theorem not_isBlank_of_isDigit {c : Char} (h : c.isDigit = true) : isBlank c = false := by
  have hlow : ('0' : Char).toNat ≤ c.toNat := by
    simp only [Char.isDigit, ge_iff_le, Bool.and_eq_true, decide_eq_true_eq,
      UInt32.le_iff_toNat_le] at h
    exact h.1
  have hhigh : c.toNat ≤ ('9' : Char).toNat := by
    simp only [Char.isDigit, ge_iff_le, Bool.and_eq_true, decide_eq_true_eq,
      UInt32.le_iff_toNat_le] at h
    exact h.2
  have h0 : ('0' : Char).toNat = 48 := rfl
  have h9 : ('9' : Char).toNat = 57 := rfl
  simp only [isBlank, Bool.or_eq_false_iff, Bool.and_eq_false_iff, decide_eq_false_iff_not,
    beq_eq_false_iff_ne]
  omega

/-- A text without blanks is kept when it is trimmed. -/
theorem trim_eq_self {cs : List Char} (h : ∀ c ∈ cs, isBlank c = false) : trim cs = cs := by
  have hstart : cs.dropWhile isBlank = cs := by
    rw [List.dropWhile_eq_self_iff]
    intro hlength
    simp [h]
  have hend : cs.reverse.dropWhile isBlank = cs.reverse := by
    rw [List.dropWhile_eq_self_iff]
    intro hlength
    simp [h]
  rw [trim, hstart, trimEnd, hend, List.reverse_reverse]

/-- No character of a padded integer is a blank. -/
theorem not_isBlank_of_mem_padded {width : Nat} {n : Int} {c : Char}
    (h : c ∈ (padded width n).toList) : isBlank c = false := by
  rw [toList_padded] at h
  rcases List.mem_append.1 h with h | h
  · split at h
    · rw [List.mem_singleton.1 h]
      rfl
    · cases h
  · exact not_isBlank_of_isDigit (isDigit_of_mem_zeros_digits h)

/-- A number that fits the width is written with exactly that many digits. -/
theorem padded_of_lt (width : Nat) {n : Nat} (hwidth : 0 < width) (h : n < 10 ^ width) :
    ∃ digits, (padded width n).toList = digits ∧ digits.length = width ∧
      (∀ c ∈ digits, c.isDigit = true) ∧ Nat.ofDigitChars 10 digits 0 = n := by
  have hlength : (Nat.toDigits 10 n).length ≤ width :=
    (Nat.length_toDigits_le_iff (by decide) hwidth).2 h
  rw [toList_padded, if_neg (by omega), if_neg (by omega), List.nil_append, Int.natAbs_natCast]
  refine ⟨_, rfl, ?_, fun c hc => isDigit_of_mem_zeros_digits hc, ofDigitChars_zeros_digits _ _⟩
  rw [List.length_append, List.length_replicate]
  omega

end StreamPlan.Text

namespace StreamPlan.TimeOfDay

open Text

/-! ## The parts of a text -/

/-- Seconds with any milliseconds, as a time of day writes them. -/
def secondsText (millis : Int) : List Char :=
  (padded 2 ((millis.tmod 60000).tdiv 1000)).toList ++
    if millis.tmod 1000 = 0 then [] else '.' :: (padded 3 (millis.tmod 1000)).toList

/-- The characters of a time of day. -/
theorem toList_text (millis : Int) :
    (text millis).toList = (padded 2 (millis.tdiv 3600000)).toList ++
      ':' :: ((padded 2 ((millis.tmod 3600000).tdiv 60000)).toList ++ ':' :: secondsText millis) := by
  unfold text secondsText
  dsimp only
  split
  · simp
  · simp

/-- Seconds and milliseconds as one number, read from a text. -/
def readSeconds? (cs : List Char) : Option Int :=
  match splitFirst '.' cs with
  | some (seconds, rest) => do
    let seconds ← readInt? seconds
    let rest ← readInt? rest
    some (seconds * 1000 + rest)
  | none => (readInt? cs).map (· * 1000)

/-- Hours, minutes and seconds as one number of milliseconds, each with its sign. -/
def readText? (cs : List Char) : Option Int := do
  let (hours, rest) ← splitFirst ':' cs
  let (minutes, seconds) ← splitFirst ':' rest
  let hours ← readInt? hours
  let minutes ← readInt? minutes
  let seconds ← readSeconds? seconds
  some (hours * 3600000 + minutes * 60000 + seconds)

/-- Written seconds read back. -/
theorem readSeconds?_secondsText (millis : Int) :
    readSeconds? (secondsText millis) = some (millis.tmod 60000) := by
  have hparts := Int.mul_tdiv_add_tmod (millis.tmod 60000) 1000
  rw [Int.tmod_tmod_of_dvd millis (by decide), Int.mul_comm] at hparts
  unfold readSeconds? secondsText
  split_ifs with hrest
  · rw [List.append_nil, splitFirst_eq_none_iff.2 (not_mem_padded rfl (by decide) _ _)]
    rw [hrest, Int.add_zero] at hparts
    simp only [readInt?_padded, Option.map_some, hparts]
  · rw [splitFirst_eq_some.2 ⟨rfl, not_mem_padded rfl (by decide) _ _⟩]
    simp only [readInt?_padded, Option.bind_eq_bind, Option.bind_some, hparts]

/-- A written time reads back, within the day or outside it. -/
theorem readText?_text (millis : Int) : readText? (text millis).toList = some millis := by
  have hminutes := Int.mul_tdiv_add_tmod (millis.tmod 3600000) 60000
  rw [Int.tmod_tmod_of_dvd millis (by decide)] at hminutes
  have hhours := Int.mul_tdiv_add_tmod millis 3600000
  rw [toList_text]
  unfold readText?
  rw [splitFirst_eq_some.2 ⟨rfl, not_mem_padded rfl (by decide) _ _⟩]
  simp only [Option.bind_eq_bind, Option.bind_some]
  rw [splitFirst_eq_some.2 ⟨rfl, not_mem_padded rfl (by decide) _ _⟩]
  simp only [Option.bind_some, readInt?_padded, readSeconds?_secondsText, Option.some.injEq]
  omega

/-- Different times have different texts. -/
theorem text_injective : Function.Injective text := by
  intro a b h
  have hread := congrArg (fun s => readText? s.toList) h
  simp only [readText?_text, Option.some.injEq] at hread
  exact hread

/-! ## Times within the day -/

/-- No character of a written time is a blank. -/
theorem not_isBlank_of_mem_text {millis : Int} {c : Char} (h : c ∈ (text millis).toList) :
    isBlank c = false := by
  rw [toList_text, secondsText] at h
  simp only [List.mem_append, List.mem_cons] at h
  rcases h with h | rfl | h | rfl | h | h
  · exact not_isBlank_of_mem_padded h
  · rfl
  · exact not_isBlank_of_mem_padded h
  · rfl
  · exact not_isBlank_of_mem_padded h
  · split at h
    · cases h
    · rcases List.mem_cons.1 h with rfl | h
      · rfl
      · exact not_isBlank_of_mem_padded h

/-- Two digits and the number they write. -/
structure TwoDigits (n : Nat) (tens ones : Char) : Prop where
  isDigit_tens : tens.isDigit = true
  isDigit_ones : ones.isDigit = true
  value : Nat.ofDigitChars 10 [tens, ones] 0 = n

/-- A number below a hundred is written with two digits. -/
theorem exists_twoDigits {n : Nat} (h : n < 100) :
    ∃ tens ones, (padded 2 n).toList = [tens, ones] ∧ TwoDigits n tens ones := by
  obtain ⟨digits, heq, hlength, hdigits, hvalue⟩ := padded_of_lt 2 (by decide) h
  obtain ⟨tens, ones, rfl⟩ := List.length_eq_two.1 hlength
  exact ⟨tens, ones, heq, hdigits _ (by simp), hdigits _ (by simp), hvalue⟩

/-- Two digits are read when they write no more than the limit. -/
theorem TwoDigits.read {n : Nat} {tens ones : Char} (h : TwoDigits n tens ones) (limit : Nat)
    (hle : n ≤ limit) : twoDigits? limit tens ones = some n := by
  unfold twoDigits?
  rw [h.value, h.isDigit_tens, h.isDigit_ones]
  simp [hle]

/-- A fraction of three digits is read. -/
theorem exists_fraction {n : Nat} (h : n < 1000) :
    ∃ digits, (padded 3 n).toList = digits ∧ fraction? digits = some n := by
  obtain ⟨digits, heq, hlength, hdigits, hvalue⟩ := padded_of_lt 3 (by decide) h
  obtain ⟨a, b, c, rfl⟩ := List.length_eq_three.1 hlength
  refine ⟨_, heq, ?_⟩
  unfold fraction?
  rw [if_pos (by simp [hdigits])]
  simpa using hvalue

/-- A time within the day reads back to itself. -/
theorem parse?_text {n : Nat} (h : n < millisPerDay) : parse? (text n).toList = some n := by
  unfold millisPerDay at h
  obtain ⟨h1, h2, hhours, hh⟩ := exists_twoDigits (n := n / 3600000) (by omega)
  obtain ⟨m1, m2, hminutes, hm⟩ := exists_twoDigits (n := n % 3600000 / 60000) (by omega)
  obtain ⟨s1, s2, hseconds, hs⟩ := exists_twoDigits (n := n % 60000 / 1000) (by omega)
  have hhours' : (n : Int).tdiv 3600000 = (n / 3600000 : Nat) := rfl
  have hminutes' : ((n : Int).tmod 3600000).tdiv 60000 = (n % 3600000 / 60000 : Nat) := rfl
  have hseconds' : ((n : Int).tmod 60000).tdiv 1000 = (n % 60000 / 1000 : Nat) := rfl
  have hrest' : (n : Int).tmod 1000 = (n % 1000 : Nat) := rfl
  unfold parse?
  dsimp only
  rw [trim_eq_self fun c hc => not_isBlank_of_mem_text hc, toList_text, secondsText, hhours',
    hminutes', hseconds', hrest', hhours, hminutes, hseconds]
  have hclock : '.' ∉ [h1, h2, ':', m1, m2, ':', s1, s2] := by
    have hdigit : ∀ c : Char, c.isDigit = true → '.' ≠ c := fun c hc heq => by simp [← heq] at hc
    simp [hdigit, hh.isDigit_tens, hh.isDigit_ones, hm.isDigit_tens, hm.isDigit_ones,
      hs.isDigit_tens, hs.isDigit_ones]
  by_cases hzero : ((n % 1000 : Nat) : Int) = 0
  · rw [if_pos hzero]
    simp only [List.cons_append, List.nil_append, List.append_nil]
    rw [splitFirst_eq_none_iff.2 hclock]
    simp only [ofParts?, hh.read 23 (by omega), hm.read 59 (by omega), hs.read 59 (by omega),
      fractionMillis?, Option.bind_eq_bind, Option.bind_some, Option.some.injEq]
    omega
  · rw [if_neg hzero]
    obtain ⟨digits, hdigits, hfraction⟩ := exists_fraction (n := n % 1000) (by omega)
    have hsplit : splitFirst '.' ([h1, h2, ':', m1, m2, ':', s1, s2] ++ '.' :: digits) =
        some (_, digits) := splitFirst_eq_some.2 ⟨rfl, hclock⟩
    simp only [List.cons_append, List.nil_append] at hsplit ⊢
    rw [hdigits, hsplit]
    simp only [ofParts?, hh.read 23 (by omega), hm.read 59 (by omega), hs.read 59 (by omega),
      fractionMillis?, hfraction, Option.bind_eq_bind, Option.bind_some, Option.some.injEq]
    omega

end StreamPlan.TimeOfDay
