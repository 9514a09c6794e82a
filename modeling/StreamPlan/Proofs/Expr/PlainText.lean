import StreamPlan.Proofs.Cast.TextRoundTrip
import StreamPlan.Proofs.Expr.Parts
import StreamPlan.Proofs.Expr.Reader

/-!
# Texts of plain expressions

Where the names in an expression are identifiers, its text can be told from the words around it:
it begins with a sign or with a run that is no keyword, and what follows it does not go on with
it.  The text shows function names in capitals and integers of one width.

Main results:

- `Expr.canonical`, `Expr.text_canonical`: an expression as its text shows it.
- `Expr.IsPlain`: expressions whose names and literals can be told from the words of the text.
- `Text.Ends`: texts that do not go on with what stands before them.
- `Expr.begins_text`, `Expr.not_opensWith`: how the text of a plain expression begins.
-/

namespace StreamPlan

/-! ## Labels as texts show them -/

/-- The literal with an integer in 64 bits. -/
def Literal.widen : Literal → Literal
  | int32 n => int64 n.toInt64
  | int64 n => int64 n
  | float64 x => float64 x
  | utf8 s => utf8 s
  | boolean b => boolean b
  | time s => time s
  | null => null

/-- The width of an integer is not seen in its text. -/
theorem Literal.text_widen (v : Literal) : v.widen.text = v.text := by
  cases v with
  | int32 n => rw [widen, text, text, Int32.toInt_toInt64]
  | int64 | float64 | utf8 | boolean | time | null => rfl

namespace Expr

/-- The expression with the names of its functions in capitals and its integers in 64 bits. -/
def canonical (e : Expr) : Expr := e.relabel Text.asciiUpper Literal.widen

/-- It has the text of the expression. -/
theorem text_canonical (e : Expr) : e.canonical.text = e.text :=
  text_relabel Text.asciiUpper_idem Literal.text_widen e

end Expr

/-! ## Plain names and literals -/

namespace Text

/-- A name of letters, digits and underscores that does not begin with a digit. -/
def IsIdentifier (s : String) : Prop :=
  s.toList ≠ [] ∧ (∀ c ∈ s.toList, isNameChar c = true) ∧ ∀ c ∈ s.toList.head?, c.isDigit = false

instance (s : String) : Decidable (IsIdentifier s) :=
  decidable_of_iff
    ((!s.toList.isEmpty && s.toList.all isNameChar && s.toList.head?.all fun c => !c.isDigit) = true)
    (by cases h : s.toList.head? <;> simp [IsIdentifier, and_assoc, h])

/-- The words that may begin the text of something else than a column. -/
def keywords : List String := ["NULL", "true", "false", "TIME", "NOT", "CASE"]

end Text

open Text

/-- The column is named by an identifier, behind another one or as a word that means nothing
else. -/
structure ColumnRef.IsPlain (c : ColumnRef) : Prop where
  qualifier : ∀ s, c.qualifier = some s → IsIdentifier s
  name : IsIdentifier c.name
  not_keyword : c.qualifier = none → c.name ∉ keywords

/-- The literal is no double, and no time with a quote in its text. -/
def Literal.IsPlain : Literal → Prop
  | float64 _ => False
  | time s => '\x27' ∉ s.toList
  | int32 _ | int64 _ | utf8 _ | boolean _ | null => True

namespace Expr

/-- The names, the literal or the target of an expression are plain, apart from its parts. -/
def PlainLabels : Expr → Prop
  | .column c => c.IsPlain
  | .literal v => v.IsPlain
  | .cast _ target => target ∈ castTargets
  | .call name _ => IsIdentifier name
  | .compare .. | .arith .. | .connect .. | .not _ | .isNull _ | .isNotNull _ | .case .. => True

/-- All names, literals and targets in an expression are plain. -/
def IsPlain (e : Expr) : Prop := e.AllParts PlainLabels

end Expr

/-! ## Runs in texts -/

namespace Text

/-- A character that would go on with a name or a literal, or open what belongs to it. -/
def continuesText (c : Char) : Bool := isRunChar c || c == '.' || c == '(' || c == '\x27'

/-- A text does not go on with what stands before it. -/
def Ends (rest : List Char) : Prop := ∀ c ∈ rest.head?, continuesText c = false

/-- The end of a text ends everything. -/
theorem ends_nil : Ends [] := nofun

/-- A text is judged by its first character. -/
theorem ends_cons {c : Char} (h : continuesText c = false) (cs : List Char) : Ends (c :: cs) := by
  intro d hd
  exact Option.some.inj hd ▸ h

/-- A closing parenthesis ends what stands before it. -/
theorem ends_parenthesis (cs : List Char) : Ends (')' :: cs) := ends_cons (by decide) cs

/-- So does a blank. -/
theorem ends_blank (cs : List Char) : Ends (' ' :: cs) := ends_cons (by decide) cs

variable {rest : List Char}

/-- It does not go on with a run. -/
theorem Ends.stopsRun (h : Ends rest) : StopsRun rest := by
  intro c hc
  have := h c hc
  simp_all [continuesText]

/-- It does not go on with a string. -/
theorem Ends.quoted (h : Ends rest) : ∀ c ∈ rest.head?, c ≠ '\x27' := by
  rintro c hc rfl
  exact absurd (h _ hc) (by decide)

/-- Identifiers are runs. -/
theorem IsIdentifier.run {s : String} (h : IsIdentifier s) : ∀ c ∈ s.toList, isRunChar c = true := by
  intro c hc
  simp [isRunChar, h.2.1 c hc]

/-- Digits belong to names. -/
theorem isNameChar_of_isDigit {c : Char} (h : c.isDigit = true) : isNameChar c = true := by
  simp [isNameChar, Char.isAlphanum, h]

/-- Capital letters belong to names. -/
theorem isNameChar_of_isUpper {c : Char} (h : c.isUpper = true) : isNameChar c = true := by
  change (c.isUpper || c.isLower || c.isDigit || c == '_' || decide (0x7F < c.toNat)) = true
  simp [h]

/-- Capitals of characters of names belong to names. -/
theorem isNameChar_toUpper {c : Char} (h : isNameChar c = true) : isNameChar c.toUpper = true := by
  by_cases hsmall : 97 ≤ c.toNat ∧ c.toNat ≤ 122
  · have hplace : c.toUpper.toNat = c.toNat - 32 := by rw [toNat_toUpper, if_pos hsmall]
    have hupper : 'A'.val ≤ c.toUpper.val ∧ c.toUpper.val ≤ 'Z'.val := by
      rw [UInt32.le_iff_toNat_le, UInt32.le_iff_toNat_le]
      change 65 ≤ c.toUpper.toNat ∧ c.toUpper.toNat ≤ 90
      omega
    exact isNameChar_of_isUpper (decide_eq_true hupper)
  · have hkept : c.toUpper = c := Char.toNat_inj.1 (by rw [toNat_toUpper, if_neg hsmall])
    rwa [hkept]

/-- The capitals of an identifier are a run. -/
theorem IsIdentifier.run_asciiUpper {s : String} (h : IsIdentifier s) :
    ∀ c ∈ (asciiUpper s).toList, isRunChar c = true := by
  intro c hc
  rw [asciiUpper, String.toList_ofList] at hc
  obtain ⟨d, hd, rfl⟩ := List.mem_map.1 hc
  simp [isRunChar, isNameChar_toUpper (h.2.1 d hd)]

/-- An identifier is no integer. -/
theorem IsIdentifier.readInt?_eq_none {s : String} (h : IsIdentifier s) :
    readInt? s.toList = none := by
  obtain ⟨-, hname, hstart⟩ := h
  cases hs : s.toList with
  | nil => rfl
  | cons c cs =>
    rw [hs] at hname hstart
    have hc := hname c List.mem_cons_self
    have hplus : c ≠ '+' := by
      rintro rfl
      exact absurd hc (by decide)
    have hminus : c ≠ '-' := by
      rintro rfl
      exact absurd hc (by decide)
    simp [readInt?, hminus, hplus, readNat?, hstart c rfl]

/-- Without quotes there is nothing to double. -/
theorem flatMap_doubled_of_notMem {cs : List Char} (h : '\x27' ∉ cs) :
    cs.flatMap (fun c => if c = '\x27' then [c, c] else [c]) = cs := by
  induction cs with
  | nil => rfl
  | cons c cs ih =>
    rw [List.mem_cons, not_or] at h
    rw [List.flatMap_cons, ih h.2, if_neg (Ne.symm h.1), List.singleton_append]

/-- Integers are written as runs. -/
theorem isRunChar_of_mem_toString {n : Int} {c : Char} (h : c ∈ (toString n).toList) :
    isRunChar c = true := by
  rw [toString_eq_padded] at h
  by_cases hdigit : c.isDigit = true
  · simp [isRunChar, isNameChar_of_isDigit hdigit]
  · by_cases hminus : c = '-'
    · subst hminus
      rfl
    · exact absurd h (not_mem_padded (by simpa using hdigit) hminus 0 n)

end Text

namespace Expr

variable {rest : List Char}

/-! ## How texts begin -/

/-- How the text of a plain expression begins: with a parenthesis or a quote, or with a run that
is neither of two keywords unless something else than a blank follows. -/
inductive Begins : List Char → Prop
  | sign {c : Char} (hsign : c = '(' ∨ c = '\x27') (cs : List Char) : Begins (c :: cs)
  | run {run tail : List Char} (hne : run ≠ []) (hrun : ∀ c ∈ run, isRunChar c = true)
      (htail : StopsRun tail)
      (hkeyword : (String.ofList run ≠ "NOT" ∧ String.ofList run ≠ "CASE") ∨
        ∃ c ∈ tail.head?, c ≠ ' ') : Begins (run ++ tail)

/-- A written integer is no keyword. -/
theorem toString_ne_keyword (n : Int) : toString n ≠ "NOT" ∧ toString n ≠ "CASE" := by
  constructor
  · intro h
    have hread := readInt?_toString n
    rw [h, show readInt? "NOT".toList = none by decide] at hread
    cases hread
  · intro h
    have hread := readInt?_toString n
    rw [h, show readInt? "CASE".toList = none by decide] at hread
    cases hread

/-- Written integers begin so. -/
theorem begins_toString (n : Int) : Begins (toString n).toList := by
  have hne : (toString n).toList ≠ [] := by
    intro hnil
    have hread := readInt?_toString n
    rw [hnil] at hread
    cases hread
  have hbegins : Begins ((toString n).toList ++ []) :=
    .run hne (fun c hc => isRunChar_of_mem_toString hc) nofun
      (.inl (by simpa using toString_ne_keyword n))
  rwa [List.append_nil] at hbegins

/-- So do the words of other literals. -/
theorem begins_word {word tail : List Char}
    (hword : word ∈ ["true", "false", "NULL", "TIME"].map String.toList) (htail : StopsRun tail) :
    Begins (word ++ tail) := by
  refine .run ?_ (List.all_eq_true.1 ?_) htail (.inl ?_)
  all_goals
    simp only [List.map_cons, List.map_nil, List.mem_cons, List.not_mem_nil, or_false] at hword
    rcases hword with rfl | rfl | rfl | rfl <;> decide

/-- Texts of plain expressions begin so. -/
theorem begins_text {e : Expr} (h : e.IsPlain) : Begins e.text.toList := by
  have hlabels := h.self
  cases e with
  | column c =>
    obtain ⟨qualifier, name⟩ := c
    cases qualifier with
    | none =>
      have hword := hlabels.not_keyword rfl
      simp only [keywords, List.mem_cons, not_or] at hword
      have hbegins : Begins (name.toList ++ []) :=
        .run hlabels.name.1 hlabels.name.run nofun (.inl (by simp [hword]))
      simpa [text, ColumnRef.fullName] using hbegins
    | some source =>
      have hsource := hlabels.qualifier source rfl
      have hbegins : Begins (source.toList ++ '.' :: name.toList) :=
        .run hsource.1 hsource.run (stopsRun_cons (by decide) _) (.inr ⟨'.', rfl, by decide⟩)
      simpa [text, ColumnRef.fullName] using hbegins
  | literal v =>
    cases v with
    | int32 n => exact begins_toString n.toInt
    | int64 n => exact begins_toString n.toInt
    | float64 x => exact hlabels.elim
    | utf8 s => simpa [text, Literal.text, Literal.stringText] using Begins.sign (.inr rfl) _
    | boolean b =>
      cases b with
      | true => exact @begins_word "true".toList [] (by decide) nofun
      | false => exact @begins_word "false".toList [] (by decide) nofun
    | time s =>
      simpa [text, Literal.text] using
        @begins_word "TIME".toList (' ' :: '\x27' :: (s.toList ++ ['\x27'])) (by decide)
          (stopsRun_cons (by decide) _)
    | null => exact @begins_word "NULL".toList [] (by decide) nofun
  | compare | arith | connect | not | isNull | isNotNull | case =>
    simpa [text] using Begins.sign (.inl rfl) _
  | cast e target =>
    have hbegins : Begins ("CAST".toList ++ '(' :: (e.text.toList ++ " AS ".toList ++
        target.sqlName.toList ++ [')'])) :=
      .run (by decide) (List.all_eq_true.1 rfl) (stopsRun_cons (by decide) _)
        (.inr ⟨'(', rfl, by decide⟩)
    simpa [text] using hbegins
  | call name arguments =>
    have hname : IsIdentifier name := hlabels
    have hne : (asciiUpper name).toList ≠ [] := by simpa [asciiUpper] using hname.1
    have hbegins : Begins ((asciiUpper name).toList ++ '(' ::
        ((", ".intercalate (texts arguments)).toList ++ [')'])) :=
      .run hne hname.run_asciiUpper (stopsRun_cons (by decide) _) (.inr ⟨'(', rfl, by decide⟩)
    simpa [text] using hbegins

/-- The text of a plain expression opens with no keyword. -/
theorem not_opensWith {e : Expr} (h : e.IsPlain) (hrest : Ends rest) {keyword : String}
    (hkeyword : keyword = "NOT" ∨ keyword = "CASE") :
    opensWith keyword (e.text.toList ++ rest) = false := by
  have hbegins := begins_text h
  generalize e.text.toList = cs at hbegins
  cases hbegins with
  | @sign c hsign cs =>
    have hc : StopsRun (c :: (cs ++ rest)) :=
      stopsRun_cons (by rcases hsign with rfl | rfl <;> decide) _
    have hsplit : splitRun (c :: cs ++ rest) = ([], c :: (cs ++ rest)) :=
      @splitRun_append [] _ nofun hc
    rw [opensWith, hsplit]
    rcases hsign with rfl | rfl <;> simp
  | @run run tail hne hrun htail hword =>
    have hstops : StopsRun (tail ++ rest) := by
      cases tail with
      | nil => exact hrest.stopsRun
      | cons c tail => exact stopsRun_cons (htail c rfl) _
    rw [opensWith, List.append_assoc, splitRun_append hrun hstops]
    rcases hword with ⟨hnot, hcase⟩ | ⟨c, hc, hblank⟩
    · rcases hkeyword with rfl | rfl <;> simp [hnot, hcase]
    · cases tail with
      | nil => cases hc
      | cons d tail =>
        obtain rfl := Option.some.inj hc
        simp [hblank]

/-- It is not empty. -/
theorem toList_text_ne_nil {e : Expr} (h : e.IsPlain) : e.text.toList ≠ [] := by
  have hbegins := begins_text h
  generalize e.text.toList = cs at hbegins ⊢
  cases hbegins with
  | sign => exact List.cons_ne_nil _ _
  | run hne => exact List.append_ne_nil_of_left_ne_nil hne _

/-- Nor does it begin with a closing parenthesis. -/
theorem after?_parenthesis {e : Expr} (h : e.IsPlain) :
    after? [')'] (e.text.toList ++ rest) = none := by
  have hbegins := begins_text h
  generalize e.text.toList = cs at hbegins
  cases hbegins with
  | sign hsign cs => rcases hsign with rfl | rfl <;> rfl
  | @run run tail hne hrun htail hword =>
    cases run with
    | nil => exact absurd rfl hne
    | cons c run =>
      have hc : ')' ≠ c := by
        rintro rfl
        exact absurd (hrun _ List.mem_cons_self) (by decide)
      simp [after?, hc]

end Expr

end StreamPlan
