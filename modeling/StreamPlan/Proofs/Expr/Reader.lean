import StreamPlan.Proofs.Expr.Relabeling
import StreamPlan.Text.Number

/-!
# A reader of expression texts

The text of an expression is read from its front.  It begins with a run of letters and digits,
after which a point, a parenthesis or neither tells a qualified column, a call and a single word
apart; before a parenthesis or a quote the run may be empty, and then an operation or a string
follows.  The reader sees labels only as the text shows them: names of functions in capitals, and
integers of one width.

Main results:

- `Text.splitRun_append`: a run is found again before what does not continue it.
- `Text.readQuoted?_doubled`: a string is found again between its quotes.
- `Expr.Reader`, `Expr.readStep`: the reader, given a reader of the parts.
- `Expr.readExpr`, `Expr.readKey?`: the reader of expressions and of grouping lists.
-/

namespace StreamPlan

/-! ## Words and runs -/

namespace Text

/-- What follows a word, when the text begins with it. -/
def after? : List Char → List Char → Option (List Char)
  | [], cs => some cs
  | _ :: _, [] => none
  | w :: ws, c :: cs => if w = c then after? ws cs else none

/-- A word is found where it stands. -/
@[simp] theorem after?_append (word rest : List Char) : after? word (word ++ rest) = some rest := by
  induction word with
  | nil => rfl
  | cons w ws ih => rw [List.cons_append, after?, if_pos rfl, ih]

/-- Characters of names: letters, digits and underscores; what is not ASCII counts as a letter. -/
def isNameChar (c : Char) : Bool := c.isAlphanum || c == '_' || decide (0x7F < c.toNat)

/-- Characters of runs: those of names, and the minus sign of an integer. -/
def isRunChar (c : Char) : Bool := isNameChar c || c == '-'

/-- The run at the front of a text, and what follows it. -/
def splitRun (cs : List Char) : List Char × List Char :=
  (cs.takeWhile isRunChar, cs.dropWhile isRunChar)

/-- A text does not begin with a run. -/
def StopsRun (rest : List Char) : Prop := ∀ c ∈ rest.head?, isRunChar c = false

/-- A text is judged by its first character. -/
theorem stopsRun_cons {c : Char} (h : isRunChar c = false) (cs : List Char) :
    StopsRun (c :: cs) := by
  intro d hd
  exact Option.some.inj hd ▸ h

/-- A run ends where another character follows. -/
theorem splitRun_append {run rest : List Char} (hrun : ∀ c ∈ run, isRunChar c = true)
    (hrest : StopsRun rest) : splitRun (run ++ rest) = (run, rest) := by
  rw [splitRun, List.takeWhile_append_of_pos hrun, List.dropWhile_append_of_pos hrun]
  cases rest with
  | nil => simp
  | cons c cs => simp [hrest c rfl]

/-- Whether a text begins with a run that is the keyword, and a blank behind it. -/
def opensWith (keyword : String) (cs : List Char) : Bool :=
  String.ofList (splitRun cs).1 == keyword && (splitRun cs).2.head? == some ' '

/-- The string up to the closing quote, in which a quote is written twice, and what follows. -/
def readQuoted? : List Char → Option (List Char × List Char)
  | [] => none
  | '\x27' :: '\x27' :: cs => (readQuoted? cs).map fun read => ('\x27' :: read.1, read.2)
  | '\x27' :: cs => some ([], cs)
  | c :: cs => (readQuoted? cs).map fun read => (c :: read.1, read.2)

/-- A string with its quotes doubled is found again before a closing quote that no further quote
follows. -/
theorem readQuoted?_doubled (cs : List Char) {rest : List Char}
    (hrest : ∀ c ∈ rest.head?, c ≠ '\x27') :
    readQuoted?
        (cs.flatMap (fun c => if c = '\x27' then [c, c] else [c]) ++ '\x27' :: rest) =
      some (cs, rest) := by
  induction cs with
  | nil =>
    cases rest with
    | nil => rfl
    | cons c cs => simp [readQuoted?, hrest c rfl]
  | cons c cs ih =>
    rw [List.flatMap_cons, List.append_assoc]
    by_cases hc : c = '\x27'
    · subst hc
      simp [readQuoted?, ih]
    · simp [hc, readQuoted?, ih]

end Text

namespace Expr

open Text

/-! ## Parts of the reader -/

/-- A reader finds something at the front of a text, and says what follows it. -/
abbrev Reader (α : Type) := List Char → Option (α × List Char)

/-- Any number of expressions, each behind a separator. -/
def readMore (read : Reader Expr) (separator : String) : Nat → Reader (List Expr)
  | 0, _ => none
  | fuel + 1, cs =>
    match after? separator.toList cs with
    | none => some ([], cs)
    | some cs => do
      let (e, cs) ← read cs
      let (rest, cs) ← readMore read separator fuel cs
      some (e :: rest, cs)

/-- Any number of branches of a case expression. -/
def readBranches (read : Reader Expr) : Nat → Reader (List (Expr × Expr))
  | 0, _ => none
  | fuel + 1, cs =>
    match after? " WHEN ".toList cs with
    | none => some ([], cs)
    | some cs => do
      let (cond, cs) ← read cs
      let cs ← after? " THEN ".toList cs
      let (result, cs) ← read cs
      let (rest, cs) ← readBranches read fuel cs
      some ((cond, result) :: rest, cs)

/-- The alternative of a case expression, if there is one. -/
def readOtherwise (read : Reader Expr) : Reader (Option Expr) := fun cs =>
  match after? " ELSE ".toList cs with
  | none => some (none, cs)
  | some cs => do
    let (e, cs) ← read cs
    some (some e, cs)

/-- The operations between two expressions, with their signs. -/
def operations : List (String × (Expr → Expr → Expr)) :=
  [(" = ", .compare .eq), (" <> ", .compare .ne), (" < ", .compare .lt), (" <= ", .compare .le),
    (" > ", .compare .gt), (" >= ", .compare .ge), (" + ", .arith .plus), (" - ", .arith .minus),
    (" * ", .arith .times), (" / ", .arith .divide), (" % ", .arith .modulo),
    (" AND ", .connect .and), (" OR ", .connect .or)]

/-- The operation whose sign stands at the front of a text. -/
def readSign : Reader (Expr → Expr → Expr) := fun cs =>
  operations.findSome? fun operation =>
    (after? operation.1.toList cs).map fun cs => (operation.2, cs)

/-- What follows the first operand, up to the closing parenthesis. -/
def readOperation (read : Reader Expr) (first : Expr) : Reader Expr := fun cs =>
  match after? " IS NULL)".toList cs with
  | some cs => some (.isNull first, cs)
  | none =>
    match after? " IS NOT NULL)".toList cs with
    | some cs => some (.isNotNull first, cs)
    | none => do
      let (operation, cs) ← readSign cs
      let (second, cs) ← read cs
      let cs ← after? [')'] cs
      some (operation first second, cs)

/-- What follows an opening parenthesis. -/
def readGroup (read : Reader Expr) (fuel : Nat) : Reader Expr := fun cs =>
  if opensWith "NOT" cs then do
    let cs ← after? "NOT ".toList cs
    let (e, cs) ← read cs
    let cs ← after? [')'] cs
    some (.not e, cs)
  else if opensWith "CASE" cs then do
    let cs ← after? "CASE".toList cs
    let (branches, cs) ← readBranches read fuel cs
    let (otherwise, cs) ← readOtherwise read cs
    let cs ← after? " END)".toList cs
    some (.case branches otherwise, cs)
  else do
    let (first, cs) ← read cs
    readOperation read first cs

/-- The types that the reader knows. -/
def castTargets : List DataType :=
  [.null, .boolean, .int32, .int64, .float64, .utf8, .timeOfDay]

/-- The target of a cast, up to the closing parenthesis. -/
def readTarget : Reader DataType := fun cs => do
  let target ← castTargets.find? fun target => target.sqlName == String.ofList (splitRun cs).1
  let cs ← after? [')'] (splitRun cs).2
  some (target, cs)

/-- What follows a name and an opening parenthesis: the arguments of a call, or the operand and
the target of a cast. -/
def readCall (read : Reader Expr) (fuel : Nat) (name : List Char) : Reader Expr := fun cs =>
  match after? [')'] cs with
  | some cs => some (.call (String.ofList name) [], cs)
  | none => do
    let (first, cs) ← read cs
    match after? " AS ".toList cs with
    | some cs => do
      let (target, cs) ← readTarget cs
      some (.cast first target, cs)
    | none => do
      let (rest, cs) ← readMore read ", " fuel cs
      let cs ← after? [')'] cs
      some (.call (String.ofList name) (first :: rest), cs)

/-- A word that stands alone: an integer, a constant, a time with its text behind it, or a
column. -/
def readWord (word : List Char) : Reader Expr := fun cs =>
  match readInt? word, String.ofList word with
  | some n, _ => some (.literal (.int64 (Int64.ofInt n)), cs)
  | none, "NULL" => some (.literal .null, cs)
  | none, "true" => some (.literal (.boolean true), cs)
  | none, "false" => some (.literal (.boolean false), cs)
  | none, "TIME" => do
    let cs ← after? " \x27".toList cs
    let (text, cs) ← readQuoted? cs
    some (.literal (.time (String.ofList text)), cs)
  | none, name => some (.column ⟨none, name⟩, cs)

/-! ## The reader -/

/-- An expression, by the run at its front and the character behind that. -/
def readStep (read : Reader Expr) (fuel : Nat) : Reader Expr := fun cs =>
  match splitRun cs with
  | (run, '.' :: cs) =>
    some (.column ⟨some (String.ofList run), String.ofList (splitRun cs).1⟩, (splitRun cs).2)
  | (run, '(' :: cs) => if run = [] then readGroup read fuel cs else readCall read fuel run cs
  | (_, '\x27' :: cs) =>
    (readQuoted? cs).map fun read => (.literal (.utf8 (String.ofList read.1)), read.2)
  | (run, cs) => readWord run cs

/-- An expression that nests less deep than the fuel. -/
def readExpr : Nat → Reader Expr
  | 0 => fun _ => none
  | fuel + 1 => readStep (readExpr fuel) fuel

/-- A grouping list, from the name of its key. -/
def readKey? (fuel : Nat) (cs : List Char) : Option (List Expr) :=
  if cs = [] then some []
  else do
    let (first, cs) ← readExpr fuel cs
    let (rest, cs) ← readMore (readExpr fuel) keyDelimiter fuel cs
    if cs = [] then some (first :: rest) else none

end Expr

end StreamPlan
