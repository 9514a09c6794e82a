import StreamPlan.Expr.Evaluate
import StreamPlan.Proofs.Expr.TypedForm

/-!
# Laws of the connectives

A connective looks at its right side only where the left one does not decide it, so a failure
of the right side may stay unseen.  Its outcome is made of the outcomes of its sides, which are
true, false, unknown or a failure, and on outcomes the laws of logic hold with the failures
included: a negation is moved inwards, and a row of equal connectives may be grouped in any way.
Only the exchange of the sides can show another failure.

Main results:

- `Connective.outcome`: the outcome of a connective from the outcomes of its sides.
- `Connective.outcome_assoc`, `Connective.negated_outcome`, `Connective.decide?_comm`: the laws.
- `TypedExpr.evaluate_connect_eq_outcome`, `TypedExpr.evaluate_not_eq_negated`: evaluation.
- `Expr.typed_connect_eq_operands`: a connective is typed by its operands.
- `Expr.connectives_lawful`: the laws for compiled expressions.
-/

namespace StreamPlan

/-! ## Truth values -/

namespace Connective

/-- The connective that a negation makes of this one. -/
def dual : Connective → Connective
  | and => or
  | or => and

variable (op : Connective) (a b c : Option Bool)

/-- A connective of truth values may be grouped in any way. -/
theorem decide?_assoc : op.decide? (op.decide? a b) c = op.decide? a (op.decide? b c) := by
  rcases a with _ | _ | _ <;> rcases b with _ | _ | _ <;> rcases c with _ | _ | _ <;>
    cases op <;> rfl

/-- The sides of a connective of truth values may be exchanged. -/
theorem decide?_comm : op.decide? a b = op.decide? b a := by
  rcases a with _ | _ | _ <;> rcases b with _ | _ | _ <;> cases op <;> rfl

/-- A negated connective is the dual one of the negated truth values. -/
theorem decide?_dual :
    op.dual.decide? (a.map Bool.not) (b.map Bool.not) = (op.decide? a b).map Bool.not := by
  rcases a with _ | _ | _ <;> rcases b with _ | _ | _ <;> cases op <;> rfl

/-- A connective is decided exactly when one of its sides decides it. -/
theorem decide?_eq_decisive_iff :
    op.decide? a b = some op.decisive ↔ a = some op.decisive ∨ b = some op.decisive := by
  rcases a with _ | _ | _ <;> rcases b with _ | _ | _ <;> cases op <;> decide

/-- What decides a connective decides its dual when it is negated. -/
theorem map_not_eq_dual_decisive_iff :
    a.map Bool.not = some op.dual.decisive ↔ a = some op.decisive := by
  rcases a with _ | _ | _ <;> cases op <;> decide

/-! ## Outcomes -/

/-- The outcome of a connective from the outcomes of its sides: the right one counts only where
the left one does not decide. -/
def outcome (left right : Except Error (Option Bool)) : Except Error (Option Bool) :=
  left >>= fun l =>
    if l = some op.decisive then .ok l else right >>= fun r => .ok (op.decide? l r)

end Connective

/-- The outcome of a negation from the outcome of its operand. -/
def negated (operand : Except Error (Option Bool)) : Except Error (Option Bool) :=
  operand >>= fun truth => .ok (truth.map Bool.not)

namespace Connective

variable (op : Connective)

/-- A left side that fails is the outcome. -/
theorem outcome_error (e : Error) (right : Except Error (Option Bool)) :
    op.outcome (.error e) right = .error e := rfl

/-- A left side that decides is the outcome, whatever the right side does. -/
theorem outcome_of_decided {a : Option Bool} (h : a = some op.decisive)
    (right : Except Error (Option Bool)) : op.outcome (.ok a) right = .ok a :=
  if_pos h

/-- A right side that fails is the outcome where the left one does not decide. -/
theorem outcome_of_right_error {a : Option Bool} (h : a ≠ some op.decisive) (e : Error) :
    op.outcome (.ok a) (.error e) = .error e :=
  if_neg h

/-- Two truth values have the truth value of the connective. -/
theorem outcome_ok (a b : Option Bool) : op.outcome (.ok a) (.ok b) = .ok (op.decide? a b) := by
  by_cases h : a = some op.decisive
  · rw [outcome_of_decided op h, (op.decide?_eq_decisive_iff a b).2 (Or.inl h), h]
  · exact if_neg h

/-- Equal connectives have one outcome however they are grouped, failures included. -/
theorem outcome_assoc (x y z : Except Error (Option Bool)) :
    op.outcome (op.outcome x y) z = op.outcome x (op.outcome y z) := by
  cases x with
  | error e => rfl
  | ok a =>
    by_cases ha : a = some op.decisive
    · rw [outcome_of_decided op ha, outcome_of_decided op ha, outcome_of_decided op ha]
    · cases y with
      | error e => rw [outcome_of_right_error op ha, outcome_error, outcome_of_right_error op ha]
      | ok b =>
        rw [outcome_ok]
        cases z with
        | ok c => rw [outcome_ok, outcome_ok, outcome_ok, decide?_assoc]
        | error e =>
          -- The last failure is seen where neither of the first two sides decides.
          have hdecided := op.decide?_eq_decisive_iff a b
          by_cases hb : b = some op.decisive
          · have hab := hdecided.2 (Or.inr hb)
            rw [outcome_of_decided op hab, outcome_of_decided op hb, outcome_ok]
          · have hab := mt hdecided.1 (not_or.2 ⟨ha, hb⟩)
            rw [outcome_of_right_error op hab, outcome_of_right_error op hb,
              outcome_of_right_error op ha]

/-- A negated connective has the outcome of the dual one on the negated sides, failures
included. -/
theorem negated_outcome (x y : Except Error (Option Bool)) :
    negated (op.outcome x y) = op.dual.outcome (negated x) (negated y) := by
  cases x with
  | error e => rfl
  | ok a =>
    change _ = op.dual.outcome (.ok (a.map Bool.not)) _
    by_cases ha : a = some op.decisive
    · have hdual := (op.map_not_eq_dual_decisive_iff a).2 ha
      rw [outcome_of_decided op ha, outcome_of_decided op.dual hdual]
      rfl
    · have hdual := mt (op.map_not_eq_dual_decisive_iff a).1 ha
      cases y with
      | error e =>
        rw [outcome_of_right_error op ha]
        exact (outcome_of_right_error op.dual hdual e).symm
      | ok b =>
        rw [outcome_ok]
        change _ = op.dual.outcome _ (.ok (b.map Bool.not))
        rw [outcome_ok, decide?_dual]
        rfl

end Connective

/-! ## Evaluation -/

namespace TypedExpr

/-- The truth value of an expression on a row; anything but a truth value counts as unknown. -/
def truth (e : TypedExpr) (row : Row) : Except Error (Option Bool) :=
  e.evaluate row >>= fun v => .ok v.toBool?

variable (row : Row)

/-- A connective evaluates to the outcome of the truth values of its sides. -/
theorem evaluate_connect_eq_outcome (op : Connective) (left right : TypedExpr) :
    (connect op left right).evaluate row =
      op.outcome (left.truth row) (right.truth row) >>= fun t => .ok (.ofTruth t) := by
  rw [evaluate_connect]
  unfold truth Connective.outcome
  cases left.evaluate row with
  | error e => rfl
  | ok l =>
    change (if l.toBool? = some op.decisive then _ else _) =
      (if l.toBool? = some op.decisive then _ else _) >>= _
    split
    · rename_i hdecided
      rw [hdecided]
      rfl
    · cases right.evaluate row <;> rfl

/-- A negation evaluates to the negated truth value of its operand. -/
theorem evaluate_not_eq_negated (e : TypedExpr) :
    (TypedExpr.not e).evaluate row = negated (e.truth row) >>= fun t => .ok (.ofTruth t) := by
  rw [evaluate_not]
  unfold truth negated
  cases e.evaluate row <;> rfl

/-- A truth value that is evaluated is the truth value of the expression. -/
theorem truth_of_evaluate {e : TypedExpr} {outcome : Except Error (Option Bool)}
    (h : e.evaluate row = outcome >>= fun t => .ok (.ofTruth t)) : e.truth row = outcome := by
  unfold truth
  rw [h]
  rcases outcome with _ | _ | _ <;> rfl

/-- The truth value of a connective is the outcome of those of its sides. -/
theorem truth_connect (op : Connective) (left right : TypedExpr) :
    (connect op left right).truth row = op.outcome (left.truth row) (right.truth row) :=
  truth_of_evaluate row (evaluate_connect_eq_outcome row op left right)

/-- The truth value of a negation is the negated one of its operand. -/
theorem truth_not (e : TypedExpr) : (TypedExpr.not e).truth row = negated (e.truth row) :=
  truth_of_evaluate row (evaluate_not_eq_negated row e)

/-- A negated connective evaluates like the dual one on the negated sides. -/
theorem evaluate_not_connect (op : Connective) (a b : TypedExpr) :
    (TypedExpr.not (connect op a b)).evaluate row =
      (connect op.dual (.not a) (.not b)).evaluate row := by
  rw [evaluate_not_eq_negated, evaluate_connect_eq_outcome, truth_connect, truth_not, truth_not,
    Connective.negated_outcome]

/-- Equal connectives evaluate alike however they are grouped. -/
theorem evaluate_connect_assoc (op : Connective) (a b c : TypedExpr) :
    (connect op (connect op a b) c).evaluate row =
      (connect op a (connect op b c)).evaluate row := by
  rw [evaluate_connect_eq_outcome, evaluate_connect_eq_outcome, truth_connect, truth_connect,
    Connective.outcome_assoc]

/-- A connective and the one with its sides exchanged have one value where both have one. -/
theorem evaluate_connect_comm {op : Connective} {a b : TypedExpr} {v w : Value}
    (hv : (connect op a b).evaluate row = .ok v) (hw : (connect op b a).evaluate row = .ok w) :
    v = w := by
  rw [evaluate_connect_eq_outcome] at hv hw
  cases ha : a.truth row with
  | error e =>
    rw [ha] at hv
    cases hv
  | ok l =>
    cases hb : b.truth row with
    | error e =>
      rw [hb] at hw
      cases hw
    | ok r =>
      rw [ha, hb, Connective.outcome_ok] at hv hw
      rw [Connective.decide?_comm] at hv
      exact Except.ok.inj (hv.symm.trans hw)

end TypedExpr

/-! ## Typing -/

namespace Expr

variable {schema : Schema} {functions : Registry}

/-- The typed form of an expression as a side of a connective. -/
def operand (schema : Schema) (functions : Registry) (e : Expr) : Except Error TypedExpr :=
  e.typed schema functions >>= fun t => t.requireBoolean .connective e

/-- A connective is typed by its operands. -/
theorem typed_connect_eq_operands (op : Connective) (a b : Expr) :
    (connect op a b).typed schema functions =
      a.operand schema functions >>= fun l => b.operand schema functions >>= fun r =>
        .ok (.connect op l r) := by
  rw [typed_connect]
  simp only [operand, bind_assoc]

/-- A connective is an operand as it is typed. -/
theorem operand_connect (op : Connective) (a b : Expr) :
    (connect op a b).operand schema functions = (connect op a b).typed schema functions := by
  rw [operand, typed_connect_eq_operands]
  cases a.operand schema functions with
  | error e => rfl
  | ok l => cases b.operand schema functions <;> rfl

/-- What stands for a boolean in one place does so in every place, and in the same form. -/
theorem requireBoolean_of_ok {t t' : TypedExpr} {place : BooleanPlace} {source : Expr}
    (h : t.requireBoolean place source = .ok t') (other : BooleanPlace) (source' : Expr) :
    t.requireBoolean other source' = .ok t' := by
  unfold TypedExpr.requireBoolean at h ⊢
  split at h
  · rename_i hboolean
    rw [if_pos hboolean, h]
  · rename_i hboolean
    rw [if_neg hboolean]
    split at h
    · rename_i hnull
      rw [if_pos hnull, h]
    · cases h

/-- A negation is typed exactly where its operand could be a side of a connective. -/
theorem typed_not_eq_ok_iff {e : Expr} {t : TypedExpr} :
    (not e).typed schema functions = .ok t ↔
      ∃ inner, e.operand schema functions = .ok inner ∧ t = .not inner := by
  rw [typed_not, operand]
  simp only [bind_eq_ok_iff]
  constructor
  · rintro ⟨typed, htyped, inner, hinner, heq⟩
    exact ⟨inner, ⟨typed, htyped, requireBoolean_of_ok hinner _ _⟩, (Except.ok.inj heq).symm⟩
  · rintro ⟨inner, ⟨typed, htyped, hinner⟩, rfl⟩
    exact ⟨typed, htyped, inner, requireBoolean_of_ok hinner _ _, rfl⟩

/-- A negation is an operand as it is typed. -/
theorem operand_not_eq_ok_iff {e : Expr} {t : TypedExpr} :
    (not e).operand schema functions = .ok t ↔
      ∃ inner, e.operand schema functions = .ok inner ∧ t = .not inner := by
  rw [operand, bind_eq_ok_iff]
  simp only [typed_not_eq_ok_iff]
  constructor
  · rintro ⟨_, ⟨inner, hinner, rfl⟩, h⟩
    exact ⟨inner, hinner, (Except.ok.inj h).symm⟩
  · rintro ⟨inner, hinner, rfl⟩
    exact ⟨_, ⟨inner, hinner, rfl⟩, rfl⟩

/-- A connective is typed exactly where both sides are operands. -/
theorem typed_connect_eq_ok_iff {op : Connective} {a b : Expr} {t : TypedExpr} :
    (connect op a b).typed schema functions = .ok t ↔
      ∃ l r, a.operand schema functions = .ok l ∧ b.operand schema functions = .ok r ∧
        t = .connect op l r := by
  rw [typed_connect_eq_operands]
  simp only [bind_eq_ok_iff]
  constructor
  · rintro ⟨l, hl, r, hr, heq⟩
    exact ⟨l, r, hl, hr, (Except.ok.inj heq).symm⟩
  · rintro ⟨l, r, hl, hr, rfl⟩
    exact ⟨l, hl, r, hr, rfl⟩

/-- A negated connective is typed by the operands of the connective. -/
theorem typed_not_connect_eq_ok_iff {op : Connective} {a b : Expr} {t : TypedExpr} :
    (not (connect op a b)).typed schema functions = .ok t ↔
      ∃ l r, a.operand schema functions = .ok l ∧ b.operand schema functions = .ok r ∧
        t = .not (.connect op l r) := by
  rw [typed_not_eq_ok_iff]
  simp only [operand_connect, typed_connect_eq_ok_iff]
  constructor
  · rintro ⟨_, ⟨l, r, hl, hr, rfl⟩, rfl⟩
    exact ⟨l, r, hl, hr, rfl⟩
  · rintro ⟨l, r, hl, hr, rfl⟩
    exact ⟨_, ⟨l, r, hl, hr, rfl⟩, rfl⟩

/-- So is a connective of negations. -/
theorem typed_connect_not_eq_ok_iff {op : Connective} {a b : Expr} {t : TypedExpr} :
    (connect op (not a) (not b)).typed schema functions = .ok t ↔
      ∃ l r, a.operand schema functions = .ok l ∧ b.operand schema functions = .ok r ∧
        t = .connect op (.not l) (.not r) := by
  rw [typed_connect_eq_ok_iff]
  simp only [operand_not_eq_ok_iff]
  constructor
  · rintro ⟨_, _, ⟨l, hl, rfl⟩, ⟨r, hr, rfl⟩, rfl⟩
    exact ⟨l, r, hl, hr, rfl⟩
  · rintro ⟨l, r, hl, hr, rfl⟩
    exact ⟨_, _, ⟨l, hl, rfl⟩, ⟨r, hr, rfl⟩, rfl⟩

end Expr

/-! ## Compiled expressions -/

/-- Two compiled expressions have one type, and one value or error on every row. -/
structure CompiledExpr.SameOnRows (a b : CompiledExpr) : Prop where
  dataType : a.dataType = b.dataType
  evaluate : ∀ row, a.evaluate row = b.evaluate row

/-- An expression compiles. -/
def Expr.Compiles (schema : Schema) (functions : Registry) (e : Expr) : Prop :=
  ∃ compiled, e.compile schema functions = .ok compiled

/-- The laws of a connective, for three expressions. -/
structure Expr.ConnectiveLaws (schema : Schema) (functions : Registry) (op : Connective)
    (a b c : Expr) : Prop where
  /-- A negated connective compiles exactly where the dual one of the negated sides does. -/
  negated_compiles : (not (connect op a b)).Compiles schema functions ↔
    (connect op.dual (not a) (not b)).Compiles schema functions
  /-- The two have one value or error on every row. -/
  negated_same : ∀ outside inside,
    (not (connect op a b)).compile schema functions = .ok outside →
    (connect op.dual (not a) (not b)).compile schema functions = .ok inside →
    outside.SameOnRows inside
  /-- Three sides compile to the same error however they are grouped, or to one value or error
  on every row. -/
  grouped : Alike CompiledExpr.SameOnRows
    ((connect op (connect op a b) c).compile schema functions)
    ((connect op a (connect op b c)).compile schema functions)
  /-- A connective compiles exactly where the one with its sides exchanged does. -/
  exchanged_compiles : (connect op a b).Compiles schema functions ↔
    (connect op b a).Compiles schema functions
  /-- The two have one value on every row where neither fails. -/
  exchanged_value : ∀ forth back, (connect op a b).compile schema functions = .ok forth →
    (connect op b a).compile schema functions = .ok back →
    ∀ row v w, forth.evaluate row = .ok v → back.evaluate row = .ok w → v = w

namespace Expr

variable {schema : Schema} {functions : Registry}

/-- An expression compiles exactly where it is typed. -/
theorem compiles_iff_typed {e : Expr} :
    e.Compiles schema functions ↔ ∃ t, e.typed schema functions = .ok t := by
  unfold Compiles
  simp only [compile_eq_ok_iff]
  constructor
  · rintro ⟨_, t, ht, -⟩
    exact ⟨t, ht⟩
  · rintro ⟨t, ht⟩
    exact ⟨_, t, ht, rfl⟩

/-- A connective compiles exactly where both sides are operands. -/
theorem compiles_connect_iff {op : Connective} {a b : Expr} :
    (connect op a b).Compiles schema functions ↔
      (∃ l, a.operand schema functions = .ok l) ∧ ∃ r, b.operand schema functions = .ok r := by
  rw [compiles_iff_typed]
  simp only [typed_connect_eq_ok_iff]
  constructor
  · rintro ⟨_, l, r, hl, hr, -⟩
    exact ⟨⟨l, hl⟩, r, hr⟩
  · rintro ⟨⟨l, hl⟩, r, hr⟩
    exact ⟨_, l, r, hl, hr, rfl⟩

/-- Three sides are typed alike however they are grouped. -/
theorem alike_grouped (op : Connective) (a b c : Expr) :
    Alike CompiledExpr.SameOnRows
      ((connect op (connect op a b) c).compile schema functions)
      ((connect op a (connect op b c)).compile schema functions) := by
  unfold compile
  rw [typed_connect_eq_operands, typed_connect_eq_operands, operand_connect, operand_connect,
    typed_connect_eq_operands, typed_connect_eq_operands]
  simp only [bind_assoc]
  refine (Alike.refl _).bind ?_
  rintro l _ rfl
  refine (Alike.refl _).bind ?_
  rintro m _ rfl
  refine (Alike.refl (c.operand schema functions)).bind ?_
  rintro r _ rfl
  exact .ok ⟨rfl, fun row => TypedExpr.evaluate_connect_assoc row op l m r⟩

/-- The connectives of three truth values obey De Morgan's laws and may be grouped in any way,
with types, values and errors, and their sides may be exchanged as far as neither fails. -/
theorem connectives_lawful (schema : Schema) (functions : Registry) (op : Connective)
    (a b c : Expr) : ConnectiveLaws schema functions op a b c where
  negated_compiles := by
    rw [compiles_iff_typed, compiles_iff_typed]
    simp only [typed_not_connect_eq_ok_iff, typed_connect_not_eq_ok_iff]
    constructor
    · rintro ⟨_, l, r, hl, hr, -⟩
      exact ⟨_, l, r, hl, hr, rfl⟩
    · rintro ⟨_, l, r, hl, hr, -⟩
      exact ⟨_, l, r, hl, hr, rfl⟩
  negated_same outside inside houtside hinside := by
    obtain ⟨_, hleft, rfl⟩ := compile_eq_ok_iff.1 houtside
    obtain ⟨_, hright, rfl⟩ := compile_eq_ok_iff.1 hinside
    obtain ⟨l, r, hl, hr, rfl⟩ := typed_not_connect_eq_ok_iff.1 hleft
    obtain ⟨l', r', hl', hr', rfl⟩ := typed_connect_not_eq_ok_iff.1 hright
    obtain rfl := Except.ok.inj (hl.symm.trans hl')
    obtain rfl := Except.ok.inj (hr.symm.trans hr')
    exact ⟨rfl, fun row => TypedExpr.evaluate_not_connect row op l r⟩
  grouped := alike_grouped op a b c
  exchanged_compiles := by
    rw [compiles_connect_iff, compiles_connect_iff, and_comm]
  exchanged_value forth back hforth hback row v w hv hw := by
    obtain ⟨_, hleft, rfl⟩ := compile_eq_ok_iff.1 hforth
    obtain ⟨_, hright, rfl⟩ := compile_eq_ok_iff.1 hback
    obtain ⟨l, r, hl, hr, rfl⟩ := typed_connect_eq_ok_iff.1 hleft
    obtain ⟨r', l', hr', hl', rfl⟩ := typed_connect_eq_ok_iff.1 hright
    obtain rfl := Except.ok.inj (hl.symm.trans hl')
    obtain rfl := Except.ok.inj (hr.symm.trans hr')
    exact TypedExpr.evaluate_connect_comm row hv hw

/-- Whether one divided by the column `N` is one. -/
def oneByN : Expr :=
  .compare .eq (.arith .divide (.literal (.int32 1)) (.column ⟨none, "N"⟩)) (.literal (.int32 1))

/-- The columns `P` and `N`. -/
def truthAndNumber : Schema := ⟨[⟨"P", .boolean⟩, ⟨"N", .int32⟩]⟩

/-- A divisor of zero behind a true side is seen by both sides of De Morgan's law, and behind a
false side by neither. -/
theorem connectives_lawful_zeroDivisor :
    ∃ outside inside,
      (not (connect .and (.column ⟨none, "P"⟩) oneByN)).compile truthAndNumber .empty =
          .ok outside ∧
        (connect .or (not (.column ⟨none, "P"⟩)) (not oneByN)).compile truthAndNumber .empty =
          .ok inside ∧
        outside.evaluate ⟨[.boolean true, .int32 0]⟩ = .error (.evaluation .divisionByZero) ∧
        inside.evaluate ⟨[.boolean true, .int32 0]⟩ = .error (.evaluation .divisionByZero) ∧
        outside.evaluate ⟨[.boolean false, .int32 0]⟩ = .ok (.boolean true) ∧
        inside.evaluate ⟨[.boolean false, .int32 0]⟩ = .ok (.boolean true) := by
  have hlaws := connectives_lawful truthAndNumber .empty .and (.column ⟨none, "P"⟩) oneByN oneByN
  obtain ⟨outside, houtside, hfails, hdecided⟩ : ∃ outside,
      (not (connect .and (.column ⟨none, "P"⟩) oneByN)).compile truthAndNumber .empty =
        .ok outside ∧
      outside.evaluate ⟨[.boolean true, .int32 0]⟩ = .error (.evaluation .divisionByZero) ∧
      outside.evaluate ⟨[.boolean false, .int32 0]⟩ = .ok (.boolean true) := ⟨_, rfl, rfl, rfl⟩
  obtain ⟨inside, hinside⟩ := hlaws.negated_compiles.1 ⟨outside, houtside⟩
  have hsame := (hlaws.negated_same outside inside houtside hinside).evaluate
  exact ⟨outside, inside, houtside, hinside, hfails, (hsame _).symm.trans hfails, hdecided,
    (hsame _).symm.trans hdecided⟩

end Expr

end StreamPlan
