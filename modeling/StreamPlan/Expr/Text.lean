import StreamPlan.Expr

/-!
# Expressions as text

Expressions and aggregate calls as query text.  Equal expressions have equal
text, on which the names of synthetic keys rely.

Main results:

- `Expr.text`, `AggregateCall.text`: the texts.
- `Expr.keyName`: the name of the synthetic key of a grouping list.
-/

namespace StreamPlan

/-- A string literal: a quote inside it is written twice. -/
def Literal.stringText (s : String) : String :=
  String.ofList
    (['\x27'] ++ s.toList.flatMap (fun c => if c = '\x27' then [c, c] else [c]) ++ ['\x27'])

/-- The text of a literal. -/
def Literal.text : Literal → String
  | int32 n => toString n.toInt
  | int64 n => toString n.toInt
  | float64 x => Binary64.render .plain x
  | utf8 s => stringText s
  | boolean b => if b then "true" else "false"
  | time s => "TIME \x27" ++ s ++ "\x27"
  | null => "NULL"

/-- The sign of a comparison. -/
def CompareOp.text : CompareOp → String
  | eq => "="
  | ne => "<>"
  | lt => "<"
  | le => "<="
  | gt => ">"
  | ge => ">="

/-- The sign of an arithmetic operation. -/
def ArithOp.text : ArithOp → String
  | plus => "+"
  | minus => "-"
  | times => "*"
  | divide => "/"
  | modulo => "%"

/-- The word of a connective. -/
def Connective.text : Connective → String
  | and => "AND"
  | or => "OR"

mutual

/-- The text of an expression. -/
def Expr.text : Expr → String
  | .column c => c.fullName
  | .literal v => v.text
  | .compare op l r => "(" ++ l.text ++ " " ++ op.text ++ " " ++ r.text ++ ")"
  | .arith op l r => "(" ++ l.text ++ " " ++ op.text ++ " " ++ r.text ++ ")"
  | .cast e target => "CAST(" ++ e.text ++ " AS " ++ target.sqlName ++ ")"
  | .connect op l r => "(" ++ l.text ++ " " ++ op.text ++ " " ++ r.text ++ ")"
  | .not e => "(NOT " ++ e.text ++ ")"
  | .isNull e => "(" ++ e.text ++ " IS NULL)"
  | .isNotNull e => "(" ++ e.text ++ " IS NOT NULL)"
  | .case branches otherwise =>
    "(CASE" ++ Expr.branchesText branches ++ Expr.otherwiseText otherwise ++ " END)"
  | .call name arguments =>
    Text.asciiUpper name ++ "(" ++ ", ".intercalate (Expr.texts arguments) ++ ")"

/-- The texts of a list of expressions. -/
def Expr.texts : List Expr → List String
  | [] => []
  | e :: rest => e.text :: Expr.texts rest

/-- The text of the branches of a case expression. -/
def Expr.branchesText : List (Expr × Expr) → String
  | [] => ""
  | (cond, result) :: rest =>
    " WHEN " ++ cond.text ++ " THEN " ++ result.text ++ Expr.branchesText rest

/-- The text of the alternative of a case expression. -/
def Expr.otherwiseText : Option Expr → String
  | none => ""
  | some e => " ELSE " ++ e.text

end

/-- The texts of a list are taken one by one. -/
@[simp] theorem Expr.texts_eq_map (es : List Expr) : Expr.texts es = es.map Expr.text := by
  induction es with
  | nil => rfl
  | cons e rest ih => rw [Expr.texts, ih, List.map_cons]

/-- The separator between the parts of a composite key. -/
def keyDelimiter : String := "|+|"

/-- The name of the synthetic key of a grouping list. -/
def Expr.keyName (es : List Expr) : String := keyDelimiter.intercalate (es.map Expr.text)

/-- The text of an aggregate call. -/
def AggregateCall.text : AggregateCall → String
  | countAll => "COUNT(*)"
  | count e => "COUNT(" ++ e.text ++ ")"
  | sum e => "SUM(" ++ e.text ++ ")"
  | min e => "MIN(" ++ e.text ++ ")"
  | max e => "MAX(" ++ e.text ++ ")"

end StreamPlan
