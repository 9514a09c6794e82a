import StreamPlan.Proofs.Expr.PlainText

/-!
# Names of grouping lists

The synthetic key of a grouping list is named by the texts of its expressions.  Where names are
identifiers, the reader of texts finds every expression again in front of whatever may follow it,
so that one name belongs to one list, up to the case of function names and the width of integers.

Main results:

- `Expr.readsBack_step`: the reader finds an expression again when it finds its parts.
- `Expr.readKey?_keyName`: the reader finds a grouping list in the name of its key.
- `Expr.keyName_eq_iff`: grouping lists with one name.
-/

namespace StreamPlan

open Text

namespace Expr

variable {read : Reader Expr} {fuel : Nat} {rest : List Char}

/-! ## Reading single words -/

/-- A run that ends is a word. -/
theorem readStep_word {run : List Char} (hrun : ∀ c ∈ run, isRunChar c = true)
    (hrest : Ends rest) : readStep read fuel (run ++ rest) = readWord run rest := by
  unfold readStep
  rw [splitRun_append hrun hrest.stopsRun]
  split
  · rename_i heq
    obtain ⟨rfl, rfl⟩ := Prod.mk.inj heq
    exact absurd (hrest _ rfl) (by decide)
  · rename_i heq
    obtain ⟨rfl, rfl⟩ := Prod.mk.inj heq
    exact absurd (hrest _ rfl) (by decide)
  · rename_i heq
    obtain ⟨rfl, rfl⟩ := Prod.mk.inj heq
    exact absurd (hrest _ rfl) (by decide)
  · rename_i heq
    obtain ⟨rfl, rfl⟩ := Prod.mk.inj heq
    rfl

/-- The word of times takes the string behind it. -/
theorem readWord_time (cs : List Char) :
    readWord "TIME".toList cs =
      (after? " \x27".toList cs).bind fun cs => (readQuoted? cs).bind fun read =>
        some (.literal (.time (String.ofList read.1)), read.2) := rfl

/-- The reader finds an expression again at the front of every text that does not go on with it. -/
def ReadsBack (read : Reader Expr) (e : Expr) : Prop :=
  ∀ rest, Ends rest → read (e.text.toList ++ rest) = some (e.canonical, rest)

/-- A plain column is found again. -/
theorem readsBack_column {c : ColumnRef} (h : c.IsPlain) :
    ReadsBack (readStep read fuel) (.column c) := by
  obtain ⟨qualifier, name⟩ := c
  intro rest hrest
  cases qualifier with
  | none =>
    have hword := h.not_keyword rfl
    simp only [keywords, List.mem_cons, not_or] at hword
    change readStep read fuel (name.toList ++ rest) = _
    rw [readStep_word h.name.run hrest, readWord, h.name.readInt?_eq_none, String.ofList_toList]
    split
    all_goals simp_all [canonical, relabel]
  | some source =>
    have hsource := h.qualifier source rfl
    have htext : (Expr.column ⟨some source, name⟩).text.toList ++ rest =
        source.toList ++ '.' :: (name.toList ++ rest) := by
      simp [text, ColumnRef.fullName]
    rw [htext, readStep, splitRun_append hsource.run (stopsRun_cons (by decide) _)]
    simp [splitRun_append h.name.run hrest.stopsRun, canonical, relabel]

/-- A plain literal is found again. -/
theorem readsBack_literal {v : Literal} (h : v.IsPlain) :
    ReadsBack (readStep read fuel) (.literal v) := by
  intro rest hrest
  have hint : ∀ n : Int, readStep read fuel ((toString n).toList ++ rest) =
      some (.literal (.int64 (Int64.ofInt n)), rest) := by
    intro n
    rw [readStep_word (fun c hc => isRunChar_of_mem_toString hc) hrest, readWord,
      readInt?_toString]
  cases v with
  | int32 n =>
    change readStep read fuel ((toString n.toInt).toList ++ rest) = _
    rw [hint, Int64.ofInt_int32ToInt]
    rfl
  | int64 n =>
    change readStep read fuel ((toString n.toInt).toList ++ rest) = _
    rw [hint, Int64.ofInt_toInt]
    rfl
  | float64 x => exact h.elim
  | utf8 s =>
    have htext : (Expr.literal (.utf8 s)).text.toList ++ rest =
        '\x27' :: (s.toList.flatMap (fun c => if c = '\x27' then [c, c] else [c]) ++
          '\x27' :: rest) := by
      simp [text, Literal.text, Literal.stringText]
    rw [htext]
    change (readQuoted? _).map _ = _
    rw [readQuoted?_doubled _ hrest.quoted]
    simp [canonical, relabel, Literal.widen]
  | boolean b =>
    cases b with
    | true => exact readStep_word (List.all_eq_true.1 rfl) hrest
    | false => exact readStep_word (List.all_eq_true.1 rfl) hrest
  | time s =>
    have htext : (Expr.literal (.time s)).text.toList ++ rest =
        "TIME".toList ++ (" \x27".toList ++ (s.toList ++ '\x27' :: rest)) := by
      simp [text, Literal.text]
    have hdoubled := readQuoted?_doubled s.toList hrest.quoted
    rw [flatMap_doubled_of_notMem h] at hdoubled
    have hblank : Ends (" \x27".toList ++ (s.toList ++ '\x27' :: rest)) := ends_blank _
    rw [htext, @readStep_word read fuel _ "TIME".toList (List.all_eq_true.1 rfl) hblank]
    rw [readWord_time, after?_append, Option.bind_some, hdoubled]
    simp [canonical, relabel, Literal.widen]
  | null => exact readStep_word (List.all_eq_true.1 rfl) hrest

/-! ## Reading operations -/

variable {e l r : Expr}

/-- A parenthesis without a run before it is read as an operation. -/
theorem readStep_parenthesis (cs : List Char) :
    readStep read fuel ('(' :: cs) = readGroup read fuel cs := rfl

/-- Behind a first operand the reader goes on with an operation. -/
theorem readStep_first {tail : List Char} (hplain : l.IsPlain) (hl : ReadsBack read l)
    (htail : Ends tail) :
    readStep read fuel ('(' :: (l.text.toList ++ tail)) = readOperation read l.canonical tail := by
  rw [readStep_parenthesis, readGroup, not_opensWith hplain htail (.inl rfl),
    not_opensWith hplain htail (.inr rfl)]
  simp only [Bool.false_eq_true, if_false, hl tail htail, Option.bind_eq_bind, Option.bind_some]

/-- The signs of operations are found, and taken for nothing else. -/
theorem readSign_of_mem {sign : String} {operation : Expr → Expr → Expr}
    (h : (sign, operation) ∈ operations) (cs : List Char) :
    readSign (sign.toList ++ cs) = some (operation, cs) ∧ Ends (sign.toList ++ cs) ∧
      after? " IS NULL)".toList (sign.toList ++ cs) = none ∧
      after? " IS NOT NULL)".toList (sign.toList ++ cs) = none := by
  simp only [operations, List.mem_cons, List.not_mem_nil, or_false, Prod.mk.injEq] at h
  rcases h with ⟨rfl, rfl⟩ | ⟨rfl, rfl⟩ | ⟨rfl, rfl⟩ | ⟨rfl, rfl⟩ | ⟨rfl, rfl⟩ | ⟨rfl, rfl⟩ |
    ⟨rfl, rfl⟩ | ⟨rfl, rfl⟩ | ⟨rfl, rfl⟩ | ⟨rfl, rfl⟩ | ⟨rfl, rfl⟩ | ⟨rfl, rfl⟩ | ⟨rfl, rfl⟩
  all_goals exact ⟨rfl, ends_blank _, rfl, rfl⟩

/-- An operation between two expressions is found again. -/
theorem readsBack_infix {sign : String} {operation : Expr → Expr → Expr}
    (hsign : (sign, operation) ∈ operations)
    (htext : (operation l r).text = "(" ++ l.text ++ sign ++ r.text ++ ")")
    (hcanonical : (operation l r).canonical = operation l.canonical r.canonical)
    (hplain : l.IsPlain) (hl : ReadsBack read l) (hr : ReadsBack read r) :
    ReadsBack (readStep read fuel) (operation l r) := by
  intro rest hrest
  have hcs : (operation l r).text.toList ++ rest =
      '(' :: (l.text.toList ++ (sign.toList ++ (r.text.toList ++ ')' :: rest))) := by
    simp [htext]
  obtain ⟨hread, hblank, hnull, hnotNull⟩ :=
    readSign_of_mem hsign (r.text.toList ++ ')' :: rest)
  rw [hcs, hcanonical, readStep_first hplain hl hblank, readOperation, hnull, hnotNull]
  dsimp only
  rw [hread, Option.bind_eq_bind, Option.bind_some, hr _ (ends_parenthesis rest)]
  rfl

/-- Comparisons, arithmetic and connectives are among the operations, each with its sign between
blanks. -/
theorem mem_operations :
    (∀ op : CompareOp, (" " ++ op.text ++ " ", Expr.compare op) ∈ operations) ∧
      (∀ op : ArithOp, (" " ++ op.text ++ " ", Expr.arith op) ∈ operations) ∧
      ∀ op : Connective, (" " ++ op.text ++ " ", Expr.connect op) ∈ operations := by
  refine ⟨?_, ?_, ?_⟩
  all_goals
    intro op
    cases op <;> simp [operations, CompareOp.text, ArithOp.text, Connective.text]

/-- Tests for null are found again. -/
theorem readsBack_isNull (hplain : e.IsPlain) (he : ReadsBack read e) :
    ReadsBack (readStep read fuel) (.isNull e) := by
  intro rest hrest
  have hcs : (isNull e).text.toList ++ rest =
      '(' :: (e.text.toList ++ (" IS NULL)".toList ++ rest)) := by
    simp [text]
  have hblank : Ends (" IS NULL)".toList ++ rest) := ends_blank _
  rw [hcs, readStep_first hplain he hblank, readOperation, after?_append]
  rfl

/-- So are negated ones. -/
theorem readsBack_isNotNull (hplain : e.IsPlain) (he : ReadsBack read e) :
    ReadsBack (readStep read fuel) (.isNotNull e) := by
  intro rest hrest
  have hcs : (isNotNull e).text.toList ++ rest =
      '(' :: (e.text.toList ++ (" IS NOT NULL)".toList ++ rest)) := by
    simp [text]
  have hnull : after? " IS NULL)".toList (" IS NOT NULL)".toList ++ rest) = none := rfl
  have hblank : Ends (" IS NOT NULL)".toList ++ rest) := ends_blank _
  rw [hcs, readStep_first hplain he hblank, readOperation, hnull]
  dsimp only
  rw [after?_append]
  rfl

/-- Negations are found again. -/
theorem readsBack_not (he : ReadsBack read e) : ReadsBack (readStep read fuel) (.not e) := by
  intro rest hrest
  have hcs : (Expr.not e).text.toList ++ rest =
      '(' :: ("NOT ".toList ++ (e.text.toList ++ ')' :: rest)) := by
    simp [text]
  have hopens : opensWith "NOT" ("NOT ".toList ++ (e.text.toList ++ ')' :: rest)) = true :=
    rfl
  rw [hcs, readStep_parenthesis, readGroup, if_pos hopens, after?_append, Option.bind_eq_bind,
    Option.bind_some, Option.bind_eq_bind, he _ (ends_parenthesis rest), Option.bind_some]
  rfl

/-! ## Reading casts and calls -/

/-- What stands behind a name and a parenthesis is read as a call or a cast. -/
theorem readStep_call {name : List Char} (hne : name ≠ []) (hname : ∀ c ∈ name, isRunChar c = true)
    (cs : List Char) : readStep read fuel (name ++ '(' :: cs) = readCall read fuel name cs := by
  rw [readStep, splitRun_append hname (stopsRun_cons (by decide) cs)]
  exact if_neg hne

/-- A cast to one of the known types is found again. -/
theorem readsBack_cast {target : DataType} (htarget : target ∈ castTargets) (hplain : e.IsPlain)
    (he : ReadsBack read e) : ReadsBack (readStep read fuel) (.cast e target) := by
  intro rest hrest
  have hcs : (Expr.cast e target).text.toList ++ rest =
      "CAST".toList ++ '(' :: (e.text.toList ++ (" AS ".toList ++
        (target.sqlName.toList ++ ')' :: rest))) := by
    simp [text]
  have hread : readTarget (target.sqlName.toList ++ ')' :: rest) = some (target, rest) := by
    have hrun : ∀ t ∈ castTargets, t.sqlName.toList.all isRunChar = true := by decide
    have hfind : ∀ t ∈ castTargets,
        castTargets.find? (fun u => u.sqlName == t.sqlName) = some t := by decide
    rw [readTarget, splitRun_append (List.all_eq_true.1 (hrun target htarget))
      (stopsRun_cons (by decide) rest), String.ofList_toList, hfind target htarget]
    rfl
  have hblank : Ends (" AS ".toList ++ (target.sqlName.toList ++ ')' :: rest)) := ends_blank _
  rw [hcs, readStep_call (by decide) (List.all_eq_true.1 rfl), readCall, after?_parenthesis hplain]
  dsimp only
  rw [Option.bind_eq_bind, he _ hblank, Option.bind_some, after?_append]
  dsimp only
  rw [Option.bind_eq_bind, hread, Option.bind_some]
  rfl

/-- The texts of a list of expressions, each behind a separator. -/
def moreText (separator : String) : List Expr → String
  | [] => ""
  | e :: rest => separator ++ e.text ++ moreText separator rest

/-- Joined texts are the first one and the others behind separators. -/
theorem intercalate_texts (separator : String) (e : Expr) (rest : List Expr) :
    separator.intercalate ((e :: rest).map text) = e.text ++ moreText separator rest := by
  induction rest generalizing e with
  | nil => simp [moreText]
  | cons other rest ih =>
    rw [List.map_cons, List.map_cons, String.intercalate_cons_cons, ← List.map_cons, ih, moreText,
      String.append_assoc, String.append_assoc]

/-- They go on with nothing, as little as what follows them does. -/
theorem ends_moreText {separator : String} (hseparator : ∀ cs, Ends (separator.toList ++ cs))
    (hrest : Ends rest) (es : List Expr) : Ends ((moreText separator es).toList ++ rest) := by
  cases es with
  | nil => exact hrest
  | cons e es =>
    rw [moreText, String.append_assoc, String.toList_append, List.append_assoc]
    exact hseparator _

/-- Expressions behind separators are found again before a text that begins with no separator. -/
theorem readMore_moreText {separator : String} (hseparator : ∀ cs, Ends (separator.toList ++ cs))
    {es : List Expr} (hes : ∀ e ∈ es, ReadsBack read e) (hfuel : es.length < fuel)
    (hrest : Ends rest) (hmore : after? separator.toList rest = none) :
    readMore read separator fuel ((moreText separator es).toList ++ rest) =
      some (es.map canonical, rest) := by
  induction es generalizing fuel with
  | nil =>
    cases fuel with
    | zero => cases hfuel
    | succ fuel =>
      change readMore read separator (fuel + 1) rest = _
      rw [readMore, hmore]
      rfl
  | cons e es ih =>
    cases fuel with
    | zero => cases hfuel
    | succ fuel =>
      have hends := ends_moreText hseparator hrest es
      have hothers := ih (fun other hother => hes other (List.mem_cons_of_mem _ hother))
        (Nat.lt_of_succ_lt_succ hfuel)
      rw [moreText, String.toList_append, String.toList_append, List.append_assoc,
        List.append_assoc, readMore, after?_append]
      dsimp only
      rw [Option.bind_eq_bind, hes e List.mem_cons_self _ hends, Option.bind_some,
        Option.bind_eq_bind, hothers, Option.bind_some]
      rfl

/-- Calls are found again. -/
theorem readsBack_call {name : String} (hname : IsIdentifier name) {arguments : List Expr}
    (hplain : ∀ e ∈ arguments, e.IsPlain) (harguments : ∀ e ∈ arguments, ReadsBack read e)
    (hfuel : arguments.length < fuel) : ReadsBack (readStep read fuel) (.call name arguments) := by
  intro rest hrest
  have hne : (asciiUpper name).toList ≠ [] := by simpa [asciiUpper] using hname.1
  have hcanonical : (Expr.call name arguments).canonical =
      .call (asciiUpper name) (arguments.map canonical) := by
    rw [canonical, relabel, relabelAll_eq_map]
    rfl
  cases arguments with
  | nil =>
    have hcs : (Expr.call name []).text.toList ++ rest =
        (asciiUpper name).toList ++ '(' :: ')' :: rest := by
      simp [text]
    rw [hcs, hcanonical, readStep_call hne hname.run_asciiUpper, readCall]
    simp [after?]
  | cons first others =>
    have hcs : (Expr.call name (first :: others)).text.toList ++ rest =
        (asciiUpper name).toList ++ '(' :: (first.text.toList ++
          ((moreText ", " others).toList ++ ')' :: rest)) := by
      rw [text, texts_eq_map, intercalate_texts]
      simp
    have hcomma : ∀ cs, Ends (", ".toList ++ cs) := fun cs => @ends_cons ',' (by decide) _
    have hends := ends_moreText hcomma (ends_parenthesis rest) others
    have hcall : after? " AS ".toList ((moreText ", " others).toList ++ ')' :: rest) = none := by
      cases others with
      | nil => rfl
      | cons second others =>
        rw [moreText, String.append_assoc, String.toList_append, List.append_assoc]
        rfl
    have hothers := readMore_moreText hcomma
      (fun e he => harguments e (List.mem_cons_of_mem _ he)) (Nat.lt_of_succ_lt hfuel)
      (ends_parenthesis rest) rfl
    rw [hcs, hcanonical, readStep_call hne hname.run_asciiUpper, readCall,
      after?_parenthesis (hplain first List.mem_cons_self)]
    dsimp only
    rw [Option.bind_eq_bind, harguments first List.mem_cons_self _ hends, Option.bind_some, hcall]
    dsimp only
    rw [Option.bind_eq_bind, hothers, Option.bind_some, String.ofList_toList]
    rfl

/-! ## Reading case expressions -/

/-- Branches are found again before a text that begins with no branch. -/
theorem readBranches_branchesText {branches : List (Expr × Expr)}
    (hbranches : ∀ branch ∈ branches, ReadsBack read branch.1 ∧ ReadsBack read branch.2)
    (hfuel : branches.length < fuel) (hrest : Ends rest)
    (hmore : after? " WHEN ".toList rest = none) :
    readBranches read fuel ((branchesText branches).toList ++ rest) =
      some (branches.map fun branch => (branch.1.canonical, branch.2.canonical), rest) := by
  induction branches generalizing fuel with
  | nil =>
    cases fuel with
    | zero => cases hfuel
    | succ fuel =>
      change readBranches read (fuel + 1) rest = _
      rw [readBranches, hmore]
      rfl
  | cons branch branches ih =>
    cases fuel with
    | zero => cases hfuel
    | succ fuel =>
      obtain ⟨hcond, hresult⟩ := hbranches branch List.mem_cons_self
      have hends : Ends ((branchesText branches).toList ++ rest) := by
        cases branches with
        | nil => exact hrest
        | cons other branches =>
          rw [branchesText, String.append_assoc, String.append_assoc, String.append_assoc,
            String.toList_append, List.append_assoc]
          exact ends_blank _
      have hothers := ih (fun other hother => hbranches other (List.mem_cons_of_mem _ hother))
        (Nat.lt_of_succ_lt_succ hfuel)
      have hthen : Ends (" THEN ".toList ++ (branch.2.text.toList ++
          ((branchesText branches).toList ++ rest))) := ends_blank _
      have hcs : (branchesText (branch :: branches)).toList ++ rest =
          " WHEN ".toList ++ (branch.1.text.toList ++ (" THEN ".toList ++
            (branch.2.text.toList ++ ((branchesText branches).toList ++ rest)))) := by
        simp [branchesText]
      rw [hcs, readBranches, after?_append]
      dsimp only
      rw [Option.bind_eq_bind, hcond _ hthen, Option.bind_some, after?_append]
      simp only [Option.bind_eq_bind, Option.bind_some, hresult _ hends, hothers]
      rfl

/-- An alternative is found again before a text that begins with none. -/
theorem readOtherwise_otherwiseText {otherwise : Option Expr}
    (hotherwise : ∀ e, otherwise = some e → ReadsBack read e) (hrest : Ends rest)
    (hnone : after? " ELSE ".toList rest = none) :
    readOtherwise read ((otherwiseText otherwise).toList ++ rest) =
      some (otherwise.map canonical, rest) := by
  cases otherwise with
  | none =>
    change readOtherwise read rest = _
    rw [readOtherwise, hnone]
    rfl
  | some e =>
    rw [otherwiseText, String.toList_append, List.append_assoc, readOtherwise, after?_append]
    dsimp only
    rw [Option.bind_eq_bind, hotherwise e rfl rest hrest]
    rfl

/-- Case expressions are found again. -/
theorem readsBack_case {branches : List (Expr × Expr)} {otherwise : Option Expr}
    (hbranches : ∀ branch ∈ branches, ReadsBack read branch.1 ∧ ReadsBack read branch.2)
    (hotherwise : ∀ e, otherwise = some e → ReadsBack read e) (hfuel : branches.length < fuel) :
    ReadsBack (readStep read fuel) (.case branches otherwise) := by
  intro rest hrest
  have hcanonical : (Expr.case branches otherwise).canonical =
      .case (branches.map fun branch => (branch.1.canonical, branch.2.canonical))
        (otherwise.map canonical) := by
    rw [canonical, relabel, relabelBranches_eq_map, relabelOtherwise_eq_map]
    rfl
  have hcs : (Expr.case branches otherwise).text.toList ++ rest =
      '(' :: ("CASE".toList ++ ((branchesText branches).toList ++
        ((otherwiseText otherwise).toList ++ (" END)".toList ++ rest)))) := by
    simp [text]
  have hend : Ends (" END)".toList ++ rest) := ends_blank _
  have htail : Ends ((otherwiseText otherwise).toList ++ (" END)".toList ++ rest)) ∧
      after? " WHEN ".toList ((otherwiseText otherwise).toList ++ (" END)".toList ++ rest)) =
        none := by
    cases otherwise with
    | none => exact ⟨hend, rfl⟩
    | some e =>
      rw [otherwiseText, String.toList_append, List.append_assoc]
      exact ⟨ends_blank _, rfl⟩
  have hblank : ∃ cs, (branchesText branches).toList ++
      ((otherwiseText otherwise).toList ++ (" END)".toList ++ rest)) = ' ' :: cs := by
    cases branches with
    | nil => cases otherwise <;> simp [branchesText, otherwiseText]
    | cons branch branches => simp [branchesText]
  have hopens : opensWith "NOT" ("CASE".toList ++ ((branchesText branches).toList ++
        ((otherwiseText otherwise).toList ++ (" END)".toList ++ rest)))) = false ∧
      opensWith "CASE" ("CASE".toList ++ ((branchesText branches).toList ++
        ((otherwiseText otherwise).toList ++ (" END)".toList ++ rest)))) = true := by
    obtain ⟨cs, hblank⟩ := hblank
    rw [hblank]
    exact ⟨rfl, rfl⟩
  rw [hcs, hcanonical, readStep_parenthesis, readGroup, hopens.1, hopens.2]
  simp only [Bool.false_eq_true, if_false, if_true, after?_append, Option.bind_eq_bind,
    Option.bind_some, readBranches_branchesText hbranches hfuel htail.1 htail.2,
    readOtherwise_otherwiseText hotherwise hend rfl]

/-! ## Reading whole lists -/

/-- A plain expression is found again by a reader that finds its parts, with fuel for as many
parts as there are. -/
theorem readsBack_step (he : e.IsPlain) (hchildren : ∀ c ∈ e.children, ReadsBack read c)
    (hfuel : e.children.length < fuel) : ReadsBack (readStep read fuel) e := by
  have hplain : ∀ c ∈ e.children, c.IsPlain := fun c hc => he.child hc
  have hlabels := he.self
  cases e with
  | column c => exact readsBack_column hlabels
  | literal v => exact readsBack_literal hlabels
  | compare op l r =>
    refine readsBack_infix (mem_operations.1 op) ?_ rfl (hplain l ?_) (hchildren l ?_)
      (hchildren r ?_)
    all_goals simp [text, children, String.append_assoc]
  | arith op l r =>
    refine readsBack_infix (mem_operations.2.1 op) ?_ rfl (hplain l ?_) (hchildren l ?_)
      (hchildren r ?_)
    all_goals simp [text, children, String.append_assoc]
  | connect op l r =>
    refine readsBack_infix (mem_operations.2.2 op) ?_ rfl (hplain l ?_) (hchildren l ?_)
      (hchildren r ?_)
    all_goals simp [text, children, String.append_assoc]
  | cast e target =>
    exact readsBack_cast hlabels (hplain e List.mem_cons_self) (hchildren e List.mem_cons_self)
  | not e => exact readsBack_not (hchildren e List.mem_cons_self)
  | isNull e =>
    exact readsBack_isNull (hplain e List.mem_cons_self) (hchildren e List.mem_cons_self)
  | isNotNull e =>
    exact readsBack_isNotNull (hplain e List.mem_cons_self) (hchildren e List.mem_cons_self)
  | case branches otherwise =>
    refine readsBack_case (fun branch hmem => ?_) ?_ ?_
    · obtain ⟨hcond, hresult⟩ := @mem_children_of_branch branches otherwise branch hmem
      exact ⟨hchildren _ hcond, hchildren _ hresult⟩
    · rintro e rfl
      exact hchildren e mem_children_of_otherwise
    · have hlength : (branches.flatMap fun branch => [branch.1, branch.2]).length =
          branches.length * 2 := by
        simp [List.length_flatMap]
      rw [children, List.length_append, hlength] at hfuel
      omega
  | call name arguments => exact readsBack_call hlabels hplain hchildren hfuel

/-- A bound for each member of a list gives one for all of them. -/
theorem exists_common_fuel {es : List Expr}
    (h : ∀ e ∈ es, ∃ bound, ∀ fuel, bound ≤ fuel → ReadsBack (readExpr fuel) e) :
    ∃ bound, ∀ fuel, bound ≤ fuel → ∀ e ∈ es, ReadsBack (readExpr fuel) e := by
  induction es with
  | nil => exact ⟨0, fun _ _ => nofun⟩
  | cons e es ih =>
    obtain ⟨first, hfirst⟩ := h e List.mem_cons_self
    obtain ⟨others, hothers⟩ := ih fun other hother => h other (List.mem_cons_of_mem _ hother)
    refine ⟨max first others, fun fuel hfuel => ?_⟩
    rw [List.forall_mem_cons]
    exact ⟨hfirst fuel (by omega), hothers fuel (by omega)⟩

/-- With enough fuel the reader finds a plain expression again. -/
theorem exists_fuel (he : e.IsPlain) :
    ∃ bound, ∀ fuel, bound ≤ fuel → ReadsBack (readExpr fuel) e := by
  induction e using induct_children with
  | step e ih =>
    obtain ⟨bound, hbound⟩ := exists_common_fuel fun c hc => ih c hc (he.child hc)
    refine ⟨max bound (e.children.length + 1) + 1, fun fuel hfuel => ?_⟩
    cases fuel with
    | zero => omega
    | succ fuel => exact readsBack_step he (hbound fuel (by omega)) (by omega)

/-- With enough fuel the reader finds a list of plain expressions in the name of its key. -/
theorem readKey?_keyName {es : List Expr} (hes : ∀ e ∈ es, e.IsPlain) :
    ∃ bound, ∀ fuel, bound ≤ fuel →
      readKey? fuel (keyName es).toList = some (es.map canonical) := by
  obtain ⟨bound, hbound⟩ := exists_common_fuel fun e he => exists_fuel (hes e he)
  refine ⟨max bound (es.length + 1), fun fuel hfuel => ?_⟩
  have hread := hbound fuel (by omega)
  cases es with
  | nil => rfl
  | cons first others =>
    have hname : (keyName (first :: others)).toList =
        first.text.toList ++ ((moreText keyDelimiter others).toList ++ []) := by
      rw [keyName, intercalate_texts, String.toList_append, List.append_nil]
    have hne : first.text.toList ++ ((moreText keyDelimiter others).toList ++ []) ≠ [] :=
      List.append_ne_nil_of_left_ne_nil (toList_text_ne_nil (hes first List.mem_cons_self)) _
    have hdelimiter : ∀ cs, Ends (keyDelimiter.toList ++ cs) :=
      fun cs => @ends_cons '|' (by decide) _
    rw [List.length_cons] at hfuel
    have hothers := readMore_moreText hdelimiter
      (fun e he => hread e (List.mem_cons_of_mem _ he)) (show others.length < fuel by omega)
      ends_nil rfl
    rw [hname, readKey?, if_neg hne, Option.bind_eq_bind,
      hread first List.mem_cons_self _ (ends_moreText hdelimiter ends_nil others),
      Option.bind_some]
    dsimp only
    rw [hothers]
    rfl

/-- Two lists of plain expressions name one key exactly when they are equal up to the case of
function names and the width of integers. -/
theorem keyName_eq_iff {es others : List Expr} (hes : ∀ e ∈ es, e.IsPlain)
    (hothers : ∀ e ∈ others, e.IsPlain) :
    keyName es = keyName others ↔ es.map canonical = others.map canonical := by
  constructor
  · intro h
    obtain ⟨bound, hbound⟩ := readKey?_keyName hes
    obtain ⟨bound', hbound'⟩ := readKey?_keyName hothers
    have hread := hbound (max bound bound') (by omega)
    rw [h, hbound' (max bound bound') (by omega)] at hread
    exact (Option.some.inj hread).symm
  · intro h
    have htexts : ∀ list : List Expr, (list.map canonical).map text = list.map text := by
      intro list
      rw [List.map_map]
      exact List.map_congr_left fun e _ => text_canonical e
    rw [keyName, keyName, ← htexts es, h, htexts]

/-- A call on a string that holds the delimiter, a quote and a comma, and a comparison with an
integer. -/
def labelledList (name : String) (five : Literal) : List Expr :=
  [.call name [.literal (.utf8 "a|+|b', 'c"), .column ⟨some "O", "X"⟩],
    .compare .ge (.cast (.column ⟨none, "N"⟩) .int64) (.literal five)]

/-- Its expressions are plain. -/
theorem isPlain_labelledList {name : String} (hname : IsIdentifier name) {five : Literal}
    (hfive : five.IsPlain) : ∀ e ∈ labelledList name five, e.IsPlain := by
  have hliteral : ∀ v : Literal, v.IsPlain → (Expr.literal v).IsPlain := fun _ hv => .mk hv nofun
  have hqualified : (Expr.column ⟨some "O", "X"⟩).IsPlain :=
    .mk ⟨fun s hs => Option.some.inj hs ▸ by decide, by decide, nofun⟩ nofun
  have hbare : (Expr.column ⟨none, "N"⟩).IsPlain := .mk ⟨nofun, by decide, fun _ => by decide⟩ nofun
  have hcast : (Expr.cast (.column ⟨none, "N"⟩) .int64).IsPlain :=
    .mk (show DataType.int64 ∈ castTargets by decide) (List.forall_mem_singleton.2 hbare)
  refine List.forall_mem_cons.2 ⟨.mk hname ?_, List.forall_mem_singleton.2 (.mk trivial ?_)⟩
  · exact List.forall_mem_cons.2
      ⟨hliteral (.utf8 _) trivial, List.forall_mem_singleton.2 hqualified⟩
  · exact List.forall_mem_cons.2 ⟨hcast, List.forall_mem_singleton.2 (hliteral _ hfive)⟩

/-- Two such lists name one key, whatever the case of the function and the width of the integer,
and with another integer they do not. -/
theorem keyName_eq_iff_labelledList :
    (∀ e ∈ labelledList "concat" (.int32 5), e.IsPlain) ∧
      (∀ e ∈ labelledList "Concat" (.int64 5), e.IsPlain) ∧
      keyName (labelledList "concat" (.int32 5)) = keyName (labelledList "Concat" (.int64 5)) ∧
      keyName (labelledList "concat" (.int32 5)) ≠ keyName (labelledList "Concat" (.int64 6)) := by
  have hsmall := @isPlain_labelledList "concat" (by decide) (.int32 5) trivial
  have hcapital := fun n => @isPlain_labelledList "Concat" (by decide) (.int64 n) trivial
  refine ⟨hsmall, hcapital 5, (keyName_eq_iff hsmall (hcapital 5)).2 rfl, fun h => ?_⟩
  have hlists := (keyName_eq_iff hsmall (hcapital 6)).1 h
  have hnames := congrArg (List.map text) hlists
  exact absurd hnames (by decide)

end Expr

end StreamPlan
