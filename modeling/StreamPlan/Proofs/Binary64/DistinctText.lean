import Mathlib.Data.List.DropRight
import Mathlib.Tactic.FieldSimp
import StreamPlan.Binary64.Text
import StreamPlan.Proofs.Binary64.RoundingInterval
import StreamPlan.Text.Split

/-!
# Texts of doubles

A written double is read as a rational number.  However its digits are laid out, they read
as the shortest decimal, and that determines the magnitude; the sign is written in front.
The text therefore tells doubles apart, and it tells the two zeros apart, which are equal as
numbers.

Main results:

- `numeralValue`: the rational number that a numeral writes.
- `numeralValue_renderMagnitude`: a written magnitude reads as the shortest decimal.
- `render_eq_render_iff`: when two doubles have one text.
- `render_eq_render_iff_compare?`: one text means equal numbers of one sign.
-/

namespace StreamPlan.Binary64

/-! ## Numerals as rational numbers -/

/-- The rational number that digits with an optional point write. -/
def mantissaValue (cs : List Char) : ℚ :=
  match Text.splitFirst '.' cs with
  | some (whole, fraction) => Nat.ofDigitChars 10 (whole ++ fraction) 0 / 10 ^ fraction.length
  | none => Nat.ofDigitChars 10 cs 0

/-- The rational number that a numeral with an optional exponent writes. -/
def numeralValue (cs : List Char) : ℚ :=
  match Text.splitFirst 'e' cs with
  | some (mantissa, power) => mantissaValue mantissa * 10 ^ (Text.readInt? power).getD 0
  | none => mantissaValue cs

/-- The characters are digits. -/
def Digits (cs : List Char) : Prop := ∀ c ∈ cs, c.isDigit = true

/-- A character that is not a digit does not occur among digits. -/
theorem Digits.not_mem {cs : List Char} (h : Digits cs) {c : Char} (hc : c.isDigit = false) :
    c ∉ cs := fun hmem => by simp [h c hmem] at hc

/-- Digits in a row are digits. -/
theorem Digits.append {cs ds : List Char} (hcs : Digits cs) (hds : Digits ds) :
    Digits (cs ++ ds) := fun c hc => (List.mem_append.1 hc).elim (hcs c) (hds c)

/-- Zeros are digits. -/
theorem digits_replicate_zero (n : Nat) : Digits (List.replicate n '0') := by
  intro c hc
  rw [List.eq_of_mem_replicate hc]
  rfl

/-- The characters are digits and points. -/
def Mantissa (cs : List Char) : Prop := ∀ c ∈ cs, c.isDigit = true ∨ c = '.'

/-- A mark that is neither digit nor point does not occur in a mantissa. -/
theorem Mantissa.not_mem {cs : List Char} (h : Mantissa cs) {c : Char} (hc : c.isDigit = false)
    (hpoint : c ≠ '.') : c ∉ cs := fun hmem => (h c hmem).elim (by simp [hc]) hpoint

/-- Digits around a point are a mantissa. -/
theorem Digits.mantissa_point {whole fraction : List Char} (hwhole : Digits whole)
    (hfraction : Digits fraction) : Mantissa (whole ++ '.' :: fraction) := by
  intro c hc
  rcases List.mem_append.1 hc with h | h
  · exact Or.inl (hwhole c h)
  · rcases List.mem_cons.1 h with h | h
    · exact Or.inr h
    · exact Or.inl (hfraction c h)

/-- Digits without a point write a natural number. -/
theorem mantissaValue_of_digits {cs : List Char} (h : Digits cs) :
    mantissaValue cs = Nat.ofDigitChars 10 cs 0 := by
  unfold mantissaValue
  rw [Text.splitFirst_eq_none_iff.2 (h.not_mem rfl)]

/-- Digits around a point. -/
theorem mantissaValue_point {whole : List Char} (h : Digits whole) (fraction : List Char) :
    mantissaValue (whole ++ '.' :: fraction) =
      Nat.ofDigitChars 10 (whole ++ fraction) 0 / 10 ^ fraction.length := by
  unfold mantissaValue
  rw [Text.splitFirst_eq_some.2 ⟨rfl, h.not_mem rfl⟩]

/-- A numeral without an exponent. -/
theorem numeralValue_of_no_exponent {cs : List Char} (h : 'e' ∉ cs) :
    numeralValue cs = mantissaValue cs := by
  unfold numeralValue
  rw [Text.splitFirst_eq_none_iff.2 h]

/-- A numeral with an exponent. -/
theorem numeralValue_exponent {mantissa power : List Char} {n : Int} (h : 'e' ∉ mantissa)
    (hpower : Text.readInt? power = some n) :
    numeralValue (mantissa ++ 'e' :: power) = mantissaValue mantissa * 10 ^ n := by
  unfold numeralValue
  rw [Text.splitFirst_eq_some.2 ⟨rfl, h⟩]
  simp only [hpower, Option.getD_some]

/-- Zeros in front change no number. -/
theorem ofDigitChars_zeros_append (n : Nat) (cs : List Char) :
    Nat.ofDigitChars 10 (List.replicate n '0' ++ cs) 0 = Nat.ofDigitChars 10 cs 0 := by
  rw [Nat.ofDigitChars_append, Nat.ofDigitChars_replicate_zero, Nat.mul_zero]

/-- Every zero behind multiplies by ten. -/
theorem ofDigitChars_append_zeros (n : Nat) (cs : List Char) :
    Nat.ofDigitChars 10 (cs ++ List.replicate n '0') 0 = 10 ^ n * Nat.ofDigitChars 10 cs 0 := by
  rw [Nat.ofDigitChars_append, Nat.ofDigitChars_replicate_zero]

/-! ## Layouts -/

/-- The number that digits write whose first one has the power `leading`. -/
def leadingValue (digits : List Char) (leading : Int) : ℚ :=
  Nat.ofDigitChars 10 digits 0 * 10 ^ (leading + 1 - digits.length)

variable {digits : List Char} {leading : Int}

/-- Positional digits are digits around a point. -/
theorem positional_eq (hdigits : Digits digits) (leading : Int) :
    ∃ whole fraction, positional digits leading = whole ++ '.' :: fraction ∧ Digits whole ∧
      Digits fraction ∧
      (Nat.ofDigitChars 10 (whole ++ fraction) 0 / 10 ^ fraction.length : ℚ) =
        leadingValue digits leading := by
  unfold positional leadingValue
  split
  · -- Zeros follow the point down to the power of the leading digit.
    rename_i hneg
    refine ⟨['0'], List.replicate (-leading - 1).toNat '0' ++ digits, rfl,
      digits_replicate_zero 1, (digits_replicate_zero _).append hdigits, ?_⟩
    have hzeros : ['0'] ++ (List.replicate (-leading - 1).toNat '0' ++ digits) =
        List.replicate ((-leading - 1).toNat + 1) '0' ++ digits := rfl
    rw [hzeros, ofDigitChars_zeros_append, div_eq_mul_inv, ← zpow_natCast, ← zpow_neg]
    congr 2
    simp only [List.length_append, List.length_replicate]
    omega
  · rename_i hnonneg
    dsimp only
    by_cases hlong : leading.toNat + 1 < digits.length
    · -- The point stands within the digits.
      have hpad : leading.toNat + 1 - digits.length = 0 := by omega
      rw [hpad, List.replicate_zero, List.append_nil]
      have hsplit := List.take_append_drop (leading.toNat + 1) digits
      have hfraction : (digits.drop (leading.toNat + 1)).isEmpty = false := by
        rw [List.isEmpty_eq_false_iff]
        exact List.ne_nil_of_length_pos (by rw [List.length_drop]; omega)
      rw [if_neg (by simp [hfraction])]
      refine ⟨_, _, by rw [List.append_assoc, List.singleton_append],
        fun c hc => hdigits c (List.mem_of_mem_take hc),
        fun c hc => hdigits c (List.mem_of_mem_drop hc), ?_⟩
      rw [hsplit, div_eq_mul_inv, ← zpow_natCast, ← zpow_neg]
      congr 2
      rw [List.length_drop]
      omega
    · -- Zeros fill up to the point, and one follows it.
      have hlength : (digits ++ List.replicate (leading.toNat + 1 - digits.length) '0').length =
          leading.toNat + 1 := by
        rw [List.length_append, List.length_replicate]
        omega
      rw [List.drop_eq_nil_of_le hlength.le, List.take_of_length_le hlength.le]
      refine ⟨_, ['0'], by rw [List.append_assoc]; rfl,
        hdigits.append (digits_replicate_zero _), digits_replicate_zero 1, ?_⟩
      have hzeros : digits ++ List.replicate (leading.toNat + 1 - digits.length) '0' ++ ['0'] =
          digits ++ List.replicate (leading.toNat + 1 - digits.length + 1) '0' := by
        rw [List.append_assoc, ← List.replicate_succ']
      have hpower : (10 : ℚ) ^ (leading + 1 - digits.length) =
          10 ^ (leading.toNat + 1 - digits.length) := by
        rw [← zpow_natCast]
        congr 1
        omega
      rw [hzeros, ofDigitChars_append_zeros, hpower]
      push_cast
      rw [List.length_singleton, pow_succ]
      field_simp

/-- The digits of a mantissa with at most one digit in front of the point. -/
theorem scientific_eq (sign : ExponentSign) (hdigits : Digits digits) (leading : Int) :
    ∃ mantissa, scientific sign digits leading = mantissa ++ 'e' :: exponentText sign leading ∧
      Mantissa mantissa ∧
      mantissaValue mantissa * 10 ^ leading = leadingValue digits leading := by
  unfold scientific leadingValue
  dsimp only
  match digits, hdigits with
  | [], _ => exact ⟨[], rfl, by simp [Mantissa], by simp [mantissaValue, Text.splitFirst]⟩
  | [digit], hdigits =>
    refine ⟨[digit], rfl, fun c hc => Or.inl (hdigits c hc), ?_⟩
    rw [mantissaValue_of_digits hdigits]
    congr 2
    rw [List.length_singleton]
    omega
  | first :: second :: rest, hdigits =>
    have hfirst : Digits [first] := fun c hc => hdigits c (by simp_all)
    have hrest : Digits (second :: rest) := fun c hc => hdigits c (List.mem_cons_of_mem _ hc)
    refine ⟨[first] ++ '.' :: second :: rest, by simp, hfirst.mantissa_point hrest, ?_⟩
    rw [mantissaValue_point hfirst, List.singleton_append, div_mul_eq_mul_div, mul_div_assoc,
      ← zpow_natCast, ← zpow_sub₀ (by norm_num)]
    congr 2
    simp only [List.length_cons]
    push_cast
    omega

/-- A written exponent reads back. -/
theorem readInt?_exponentText (sign : ExponentSign) (power : Int) :
    Text.readInt? (exponentText sign power) = some power := by
  unfold exponentText
  dsimp only
  cases sign with
  | onlyMinus => exact Text.readInt?_toString power
  | always =>
    dsimp only
    split
    · rename_i hnonneg
      obtain ⟨n, rfl⟩ := Int.eq_ofNat_of_zero_le hnonneg
      have htext : (toString (n : Int)).toList = Nat.toDigits 10 n := Text.toList_toString_ofNat n
      rw [htext]
      simp [Text.readInt?, Text.readNat?_toDigits]
    · exact Text.readInt?_toString power

/-! ## Magnitudes -/

/-- Without its zeros at the end a run of digits starts the same. -/
theorem exists_zeros (cs : List Char) :
    ∃ n, cs = (cs.reverse.dropWhile (· == '0')).reverse ++ List.replicate n '0' := by
  refine ⟨(cs.rtakeWhile (· == '0')).length, ?_⟩
  have hzeros : cs.rtakeWhile (· == '0') =
      List.replicate (cs.rtakeWhile (· == '0')).length '0' :=
    List.eq_replicate_of_mem fun c hc => by simpa using List.mem_rtakeWhile_imp hc
  rw [← hzeros]
  exact List.rdropWhile_append_rtakeWhile.symm

/-- Zeros behind the digits change no number. -/
theorem leadingValue_append_zeros (digits : List Char) (leading : Int) (n : Nat) :
    leadingValue (digits ++ List.replicate n '0') leading = leadingValue digits leading := by
  unfold leadingValue
  rw [ofDigitChars_append_zeros, List.length_append, List.length_replicate]
  have hpower : (10 : ℚ) ^ (leading + 1 - digits.length) =
      10 ^ n * 10 ^ (leading + 1 - (digits.length + n : Nat)) := by
    rw [← zpow_natCast, ← zpow_add₀ (by norm_num)]
    congr 1
    omega
  rw [hpower]
  push_cast
  ring

/-- The digits of a decimal write its value. -/
theorem leadingValue_toDigits (decimal : Decimal) :
    leadingValue (Nat.toDigits 10 decimal.digits)
      (decimal.power + (Nat.toDigits 10 decimal.digits).length - 1) = decimal.value := by
  unfold leadingValue Decimal.value
  rw [Nat.ofDigitChars_ten_toDigits]
  congr 2
  omega

variable {x y : Float}

/-- The number that a written magnitude stands for. -/
def writtenValue (tie : Tie) (x : Float) : ℚ :=
  if magnitude x = 0 then 0 else (shortest tie x).value

/-- A written magnitude is a mantissa, with an exponent or without. -/
theorem renderMagnitude_eq (layout : Layout) (x : Float) :
    ∃ mantissa, Mantissa mantissa ∧
      (renderMagnitude layout x = mantissa ∧ mantissaValue mantissa = writtenValue layout.tie x ∨
        ∃ power, renderMagnitude layout x = mantissa ++ 'e' :: exponentText layout.sign power ∧
          mantissaValue mantissa * 10 ^ power = writtenValue layout.tie x) := by
  unfold renderMagnitude writtenValue
  by_cases hx : magnitude x = 0
  · have hzero : Digits ['0'] := digits_replicate_zero 1
    rw [if_pos hx, if_pos hx]
    refine ⟨['0'] ++ '.' :: ['0'], hzero.mantissa_point hzero, Or.inl ⟨rfl, ?_⟩⟩
    rw [mantissaValue_point hzero]
    simp [Nat.ofDigitChars_cons]
  · rw [if_neg hx, if_neg hx, ← leadingValue_toDigits]
    dsimp only
    have hdigits : Digits (Nat.toDigits 10 (shortest layout.tie x).digits) :=
      List.all_eq_true.1 (Text.all_isDigit_toDigits _)
    generalize Nat.toDigits 10 (shortest layout.tie x).digits = all at hdigits
    generalize (shortest layout.tie x).power + (all.length : Int) - 1 = leading
    obtain ⟨n, hn⟩ := exists_zeros all
    generalize (all.reverse.dropWhile (· == '0')).reverse = digits at hn
    subst hn
    rw [leadingValue_append_zeros]
    have hstripped : Digits digits := fun c hc => hdigits c (List.mem_append_left _ hc)
    split
    · obtain ⟨whole, fraction, heq, hwhole, hfraction, hvalue⟩ := positional_eq hstripped leading
      exact ⟨_, hwhole.mantissa_point hfraction, Or.inl ⟨heq, by
        rw [mantissaValue_point hwhole, hvalue]⟩⟩
    · obtain ⟨mantissa, heq, hmantissa, hvalue⟩ := scientific_eq layout.sign hstripped leading
      exact ⟨mantissa, hmantissa, Or.inr ⟨leading, heq, hvalue⟩⟩

/-- A written magnitude reads as the number it stands for. -/
theorem numeralValue_renderMagnitude (layout : Layout) (x : Float) :
    numeralValue (renderMagnitude layout x) = writtenValue layout.tie x := by
  obtain ⟨mantissa, hmantissa, ⟨heq, hvalue⟩ | ⟨power, heq, hvalue⟩⟩ := renderMagnitude_eq layout x
  · rw [heq, numeralValue_of_no_exponent (hmantissa.not_mem rfl (by decide)), hvalue]
  · rw [heq, numeralValue_exponent (hmantissa.not_mem rfl (by decide)) (readInt?_exponentText _ _),
      hvalue]

/-- A written magnitude begins with a digit, a point or the mark of an exponent. -/
theorem renderMagnitude_ne_cons (layout : Layout) (x : Float) {c : Char} (hc : c.isDigit = false)
    (hpoint : c ≠ '.') (hexponent : c ≠ 'e') (cs : List Char) :
    renderMagnitude layout x ≠ c :: cs := by
  intro h
  have hhead : ∀ mantissa rest, Mantissa mantissa → mantissa ++ rest = c :: cs →
      rest = c :: cs := by
    intro mantissa rest hmantissa heq
    cases mantissa with
    | nil => exact heq
    | cons first more =>
      obtain ⟨rfl, -⟩ := List.cons.inj heq
      exact absurd (List.mem_cons_self ..) (hmantissa.not_mem hc hpoint)
  obtain ⟨mantissa, hmantissa, ⟨heq, -⟩ | ⟨power, heq, -⟩⟩ := renderMagnitude_eq layout x
  · exact List.cons_ne_nil _ _ (hhead mantissa [] hmantissa (by simpa [← heq] using h)).symm
  · exact hexponent (List.cons.inj (hhead mantissa _ hmantissa (heq ▸ h))).1.symm

/-- The number that is written determines the magnitude. -/
theorem magnitude_eq_of_writtenValue {tie : Tie} (h : writtenValue tie x = writtenValue tie y) :
    magnitude x = magnitude y := by
  unfold writtenValue at h
  split at h <;> split at h
  case isTrue.isTrue hx hy => rw [hx, hy]
  case isTrue.isFalse hx hy => exact absurd h (shortest_value_pos tie hy).ne
  case isFalse.isTrue hx hy => exact absurd h (shortest_value_pos tie hx).ne'
  case isFalse.isFalse hx hy => exact magnitude_eq_of_shortest hx hy h

/-- Magnitudes are written alike exactly when they are the same. -/
theorem renderMagnitude_eq_iff (layout : Layout) :
    renderMagnitude layout x = renderMagnitude layout y ↔ magnitude x = magnitude y := by
  constructor
  · intro h
    have hvalue := congrArg numeralValue h
    rw [numeralValue_renderMagnitude, numeralValue_renderMagnitude] at hvalue
    exact magnitude_eq_of_writtenValue hvalue
  · intro h
    have hshortest : shortest layout.tie x = shortest layout.tie y := by
      unfold shortest
      rw [Interval.around_eq, Interval.around_eq, h]
    unfold renderMagnitude
    rw [h, hshortest]

/-! ## Signs -/

/-- The text of a magnitude behind the sign. -/
def unsignedText (layout : Layout) (x : Float) : List Char :=
  if isFinite x then renderMagnitude layout x else ['i', 'n', 'f']

/-- A number is written as its magnitude behind its sign. -/
theorem toList_render (layout : Layout) (hx : isNaN x = false) :
    (render layout x).toList =
      (if isNegative x then ['-'] else []) ++ unsignedText layout x := by
  unfold render unsignedText
  rw [if_neg (by simp [hx])]
  dsimp only
  split <;> split <;> simp

/-- The text of a magnitude begins with a digit, a point, the mark of an exponent or the name
of infinity. -/
theorem unsignedText_ne_cons (layout : Layout) (x : Float) {c : Char} (hc : c.isDigit = false)
    (hpoint : c ≠ '.') (hexponent : c ≠ 'e') (hname : c ≠ 'i') (cs : List Char) :
    unsignedText layout x ≠ c :: cs := by
  unfold unsignedText
  split
  · exact renderMagnitude_ne_cons layout x hc hpoint hexponent cs
  · exact fun h => hname (List.cons.inj h).1.symm

/-- No magnitude is written with a minus in front. -/
theorem unsignedText_ne_minus (layout : Layout) (x : Float) (cs : List Char) :
    unsignedText layout x ≠ '-' :: cs :=
  unsignedText_ne_cons layout x rfl (by decide) (by decide) (by decide) cs

/-- The texts of two magnitudes are the same exactly when the magnitudes are. -/
theorem unsignedText_eq_iff (layout : Layout) (hx : isNaN x = false) (hy : isNaN y = false) :
    unsignedText layout x = unsignedText layout y ↔ magnitude x = magnitude y := by
  have hinfinite : ∀ z, renderMagnitude layout z ≠ ['i', 'n', 'f'] := fun z =>
    renderMagnitude_ne_cons layout z rfl (by decide) (by decide) _
  unfold isNaN at hx hy
  unfold unsignedText isFinite
  simp only [decide_eq_false_iff_not, not_lt, decide_eq_true_eq] at hx hy ⊢
  split <;> split
  case isTrue.isTrue => exact renderMagnitude_eq_iff layout
  case isTrue.isFalse => exact iff_of_false (hinfinite x) (by omega)
  case isFalse.isTrue => exact iff_of_false (hinfinite y).symm (by omega)
  case isFalse.isFalse => exact iff_of_true rfl (by omega)

/-- Two numbers have one text exactly when they agree in sign and magnitude. -/
theorem render_eq_render_iff (layout : Layout) (hx : isNaN x = false) (hy : isNaN y = false) :
    render layout x = render layout y ↔
      isNegative x = isNegative y ∧ magnitude x = magnitude y := by
  rw [← String.toList_inj, toList_render layout hx, toList_render layout hy,
    ← unsignedText_eq_iff layout hx hy]
  cases isNegative x <;> cases isNegative y
  case false.true => simp [unsignedText_ne_minus]
  case true.false => simp [(unsignedText_ne_minus layout y _).symm]
  all_goals simp

/-- Two numbers are equal exactly when their order keys are. -/
theorem compare?_eq_eq_iff (hx : isNaN x = false) (hy : isNaN y = false) :
    compare? x y = some .eq ↔
      magnitude x = magnitude y ∧ (isNegative x = isNegative y ∨ magnitude x = 0) := by
  rw [compare?_of_numbers hx hy, Option.some.injEq, compare_eq_iff_eq]
  unfold orderKey
  cases isNegative x <;> cases isNegative y <;> simp <;> omega

/-- One text means equal numbers of one sign. -/
theorem render_eq_render_iff_compare? (layout : Layout) (hx : isNaN x = false)
    (hy : isNaN y = false) :
    render layout x = render layout y ↔
      compare? x y = some .eq ∧ isNegative x = isNegative y := by
  rw [render_eq_render_iff layout hx hy, compare?_eq_eq_iff hx hy]
  constructor
  · rintro ⟨hsign, hmagnitude⟩
    exact ⟨⟨hmagnitude, Or.inl hsign⟩, hsign⟩
  · rintro ⟨⟨hmagnitude, -⟩, hsign⟩
    exact ⟨hsign, hmagnitude⟩

end StreamPlan.Binary64
