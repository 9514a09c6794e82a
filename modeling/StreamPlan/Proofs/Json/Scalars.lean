import Mathlib.Data.List.TakeWhile
import StreamPlan.Json.Printer
import StreamPlan.Json.Reader

/-!
# Written scalars

A text is written between quotes with some of its characters escaped, and an integer as a numeral.
Both are read back: no escape runs into the next character, and the digits of a number have no zero
in front.

Main results:

- `Json.escape_cases`: how a character is written between quotes.
- `Json.unescape?_flatMap_escape`: an escaped text is read back.
- `Json.ofWord?_toString`: an integer of sixty-four bits is read back.
-/

namespace StreamPlan.Json

/-! ## Texts between quotes -/

/-- A character is written as a letter behind a backslash, as a number behind a mark, or as
itself. -/
theorem escape_cases (c : Char) :
    (∃ letter, letter ≠ 'u' ∧ escaped? letter = some c ∧ escape c = ['\x5c', letter]) ∨
      (c.toNat < 0x20 ∧
        escape c = ['\x5c', 'u', '0', '0', hexDigit (c.toNat / 16), hexDigit c.toNat]) ∨
      (c ≠ '\x22' ∧ c ≠ '\x5c' ∧ ¬ c.toNat < 0x20 ∧ escape c = [c]) := by
  unfold escape
  by_cases hquote : c = '\x22'
  · exact .inl ⟨'\x22', by decide, by simp [hquote, escaped?], by simp [hquote]⟩
  by_cases hbackslash : c = '\x5c'
  · exact .inl ⟨'\x5c', by decide, by simp [hbackslash, escaped?], by simp [hbackslash]⟩
  by_cases hbackspace : c = '\x08'
  · exact .inl ⟨'b', by decide, by simp [hbackspace, escaped?], by simp [hbackspace]⟩
  by_cases hfeed : c = '\x0c'
  · exact .inl ⟨'f', by decide, by simp [hfeed, escaped?], by simp [hfeed]⟩
  by_cases hline : c = '\n'
  · exact .inl ⟨'n', by decide, by simp [hline, escaped?], by simp [hline]⟩
  by_cases hreturn : c = '\r'
  · exact .inl ⟨'r', by decide, by simp [hreturn, escaped?], by simp [hreturn]⟩
  by_cases htab : c = '\t'
  · exact .inl ⟨'t', by decide, by simp [htab, escaped?], by simp [htab]⟩
  simp only [hquote, hbackslash, hbackspace, hfeed, hline, hreturn, htab, if_false]
  by_cases hcontrol : c.toNat < 0x20
  · simp [hcontrol]
  · simp [hcontrol, hquote, hbackslash]

/-- A hexadecimal digit is read back. -/
theorem hexDigit?_hexDigit {n : Nat} (h : n < 16) : hexDigit? (hexDigit n) = some n := by
  have hall : ∀ d < 16, hexDigit? (hexDigit d) = some d := by decide
  exact hall n h

/-- The number of a control character is read back from its four digits. -/
theorem hexUnit?_control {c : Char} (h : c.toNat < 0x20) :
    hexUnit? '0' '0' (hexDigit (c.toNat / 16)) (hexDigit c.toNat) = some c.toNat := by
  have hmod : hexDigit c.toNat = hexDigit (c.toNat % 16) := by simp [hexDigit]
  have hzero : hexDigit? '0' = some 0 := rfl
  rw [hmod, hexUnit?, hexDigit?_hexDigit (by omega), hexDigit?_hexDigit (by omega), hzero]
  simp
  omega

/-- Four digits behind a mark are one character, whatever follows them. -/
theorem unescape?_unit {a b c d character : Char} {n : Nat} (hunit : hexUnit? a b c d = some n)
    (hcharacter : charOfUnit? n = some character) (cs : List Char) :
    unescape? ('\x5c' :: 'u' :: a :: b :: c :: d :: cs) = (unescape? cs).map (character :: ·) := by
  -- The reader looks for a second mark first, and then goes on in the same way.
  by_cases hpair : ∃ e f g h rest, cs = '\x5c' :: 'u' :: e :: f :: g :: h :: rest
  · obtain ⟨e, f, g, h, rest, rfl⟩ := hpair
    rw [unescape?.eq_2]
    simp only [hunit, hcharacter, Option.map_eq_bind, Function.comp_def, Option.bind_eq_bind,
      Option.bind_some]
  · rw [unescape?.eq_3 _ _ _ _ _ (by grind)]
    simp only [hunit, hcharacter, Option.map_eq_bind, Function.comp_def, Option.bind_eq_bind,
      Option.bind_some]

/-- A letter behind a backslash is the character that it stands for. -/
theorem unescape?_letter {letter character : Char} (hletter : letter ≠ 'u')
    (hcharacter : escaped? letter = some character) (cs : List Char) :
    unescape? ('\x5c' :: letter :: cs) = (unescape? cs).map (character :: ·) := by
  rw [unescape?.eq_4 _ _ (by simp [hletter]) (by simp [hletter])]
  simp only [hcharacter, Option.map_eq_bind, Function.comp_def, Option.bind_eq_bind,
    Option.bind_some]

/-- An escaped character is read back. -/
theorem unescape?_escape (c : Char) (cs : List Char) :
    unescape? (escape c ++ cs) = (unescape? cs).map (c :: ·) := by
  obtain ⟨letter, hletter, hcharacter, hescape⟩ | ⟨hcontrol, hescape⟩ |
    ⟨hquote, hbackslash, hcontrol, hescape⟩ := escape_cases c
  · rw [hescape]
    exact unescape?_letter hletter hcharacter cs
  · have hcharacter : charOfUnit? c.toNat = some c := by
      simp [charOfUnit?, Char.ofNat_toNat]
      omega
    rw [hescape]
    exact unescape?_unit (hexUnit?_control hcontrol) hcharacter cs
  · rw [hescape, List.singleton_append,
      unescape?.eq_5 _ _ (by simp [hbackslash]) (by simp [hbackslash]) (by simp [hbackslash])]
    simp [hbackslash, hcontrol]

/-- An escaped text is read back. -/
theorem unescape?_flatMap_escape (cs : List Char) : unescape? (cs.flatMap escape) = some cs := by
  induction cs with
  | nil => rfl
  | cons c cs ih => rw [List.flatMap_cons, unescape?_escape, ih, Option.map_some]

/-! ## Numerals -/

/-- The digits of a positive number have no zero in front. -/
theorem head?_toDigits_ne {n : Nat} (h : n ≠ 0) : (Nat.toDigits 10 n).head? ≠ some '0' := by
  induction n using Nat.strong_induction_on with
  | _ n ih =>
    rw [Nat.toDigits_eq_if (by decide)]
    split
    · have hall : ∀ d < 10, d ≠ 0 → Nat.digitChar d ≠ '0' := by decide
      simpa using hall n (by assumption) h
    · have hrest := ih (n / 10) (by omega) (by omega)
      obtain ⟨d, ds, hdigits⟩ :=
        List.exists_cons_of_ne_nil (Nat.toDigits_ne_nil (b := 10) (n := n / 10))
      rw [hdigits] at hrest ⊢
      simpa using hrest

/-- The digits of a number are a numeral without superfluous zeros. -/
theorem isWhole_toDigits (n : Nat) : isWhole (Nat.toDigits 10 n) = true := by
  unfold isWhole
  split
  · rfl
  · rename_i hzero
    have hn : n ≠ 0 := by
      rintro rfl
      exact hzero rfl
    simp [Nat.toDigits_ne_nil, Text.all_isDigit_toDigits, head?_toDigits_ne hn]

/-- A numeral of digits alone is an integer. -/
theorem ofUnsigned?_toDigits (negative : Bool) (n : Nat) :
    ofUnsigned? negative (Nat.toDigits 10 n) = ofWhole? negative (Nat.toDigits 10 n) := by
  have hall := List.all_eq_true.1 (Text.all_isDigit_toDigits n)
  have htake : (Nat.toDigits 10 n).takeWhile Char.isDigit = Nat.toDigits 10 n :=
    List.takeWhile_eq_self_iff.2 hall
  have hdrop : (Nat.toDigits 10 n).dropWhile Char.isDigit = [] := List.dropWhile_eq_nil_iff.2 hall
  simp [ofUnsigned?, htake, hdrop, isWhole_toDigits]

/-- The digits of a negative number of sixty-four bits are read back behind a sign. -/
theorem ofWhole?_toDigits_negative {n : Nat} (hzero : n ≠ 0) (h : n ≤ 0x8000000000000000) :
    ofWhole? true (Nat.toDigits 10 n) = some (int (-(n : Int))) := by
  have hn : Nat.ofDigitChars 10 (Nat.toDigits 10 n) 0 = n :=
    Nat.ofDigitChars_toDigits (by decide) (by decide)
  have hfits : ¬ (n = 0 ∨ 0x8000000000000000 < n) := by omega
  simp only [ofWhole?, hn, if_true, if_neg hfits]

/-- The integers that a numeral is read as. -/
def IsWord (n : Int) : Prop := -0x8000000000000000 ≤ n ∧ n < 0x10000000000000000

/-- The digits of a number begin with one. -/
theorem exists_digit_toDigits (n : Nat) :
    ∃ d ds, d.isDigit = true ∧ Nat.toDigits 10 n = d :: ds := by
  obtain ⟨d, ds, hdigits⟩ := List.exists_cons_of_ne_nil (Nat.toDigits_ne_nil (b := 10) (n := n))
  have hall := List.all_eq_true.1 (Text.all_isDigit_toDigits n)
  rw [hdigits] at hall
  exact ⟨d, ds, hall d List.mem_cons_self, hdigits⟩

/-- A word that begins with a digit is an unsigned numeral. -/
theorem ofWord?_digit {d : Char} (hd : d.isDigit = true) (ds : List Char) :
    ofWord? (d :: ds) = ofUnsigned? false (d :: ds) := by
  have hletter : ∀ letter : Char, letter.isDigit = false → d ≠ letter := by
    rintro letter hletter rfl
    simp [hd] at hletter
  have hn := hletter 'n' (by decide)
  have ht := hletter 't' (by decide)
  have hf := hletter 'f' (by decide)
  have hsign := hletter '-' (by decide)
  simp only [ofWord?, List.cons.injEq, hn, ht, hf, false_and, if_false]
  rw [ofNumeral?.eq_2 _ (by simp [hsign])]

/-- An integer of sixty-four bits is read back. -/
theorem ofWord?_toString {n : Int} (h : IsWord n) : ofWord? (toString n).toList = some (int n) := by
  obtain ⟨hleast, hgreatest⟩ := h
  cases n with
  | ofNat n =>
    obtain ⟨d, ds, hd, hdigits⟩ := exists_digit_toDigits n
    have hvalue := ofUnsigned?_toDigits false n
    rw [Text.toList_toString_ofNat]
    rw [hdigits] at hvalue ⊢
    rw [ofWord?_digit hd, hvalue, ← hdigits, ofWhole?_toDigits (by simp at hgreatest; omega)]
    rfl
  | negSucc n =>
    rw [Text.toList_toString_negSucc]
    have hvalue := ofWhole?_toDigits_negative (n := n + 1) (by omega) (by omega)
    simp [ofWord?, ofNumeral?, ofUnsigned?_toDigits, hvalue]
    omega

/-- The characters of a numeral stand in a word. -/
theorem inWord_of_mem_toString {n : Int} {c : Char} (h : c ∈ (toString n).toList) :
    Reader.inWord c = true := by
  have hdigit : ∀ d : Char, d.isDigit = true → Reader.inWord d = true := by
    intro d hd
    simp [Reader.inWord, Char.isAlphanum, hd]
  cases n with
  | ofNat n =>
    rw [Text.toList_toString_ofNat] at h
    exact hdigit c (List.all_eq_true.1 (Text.all_isDigit_toDigits n) c h)
  | negSucc n =>
    rw [Text.toList_toString_negSucc, List.mem_cons] at h
    obtain rfl | h := h
    · rfl
    · exact hdigit c (List.all_eq_true.1 (Text.all_isDigit_toDigits (n + 1)) c h)

end StreamPlan.Json
