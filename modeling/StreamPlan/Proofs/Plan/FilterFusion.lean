import StreamPlan.Proofs.Expr.NamedColumns
import StreamPlan.Proofs.Plan.Run

/-!
# Filters in a row

A filter keeps a record when its expression is true on the row, which is less than that the
expression can be evaluated: a row where it is unknown or fails is dropped as well.  So two
filters in a row are one filter by a conjunction, in either order.

Main results:

- `TypedExpr.holds_and_iff`: a conjunction is true exactly when both sides are.
- `Predicate.test_eq_true_iff`: the records that a predicate keeps.
- `Planner.exec_filterAll`: a list of filters keeps what all of them keep.
- `Planner.filters_fuse`: two filters in either order are the filter by the conjunction.
-/

namespace StreamPlan

/-! ## Truth on a row -/

/-- An expression is true on a row: it has a value there, and not an unknown one. -/
def TypedExpr.Holds (e : TypedExpr) (row : Row) : Prop :=
  ∃ v, e.evaluate row = .ok v ∧ v.toBool? = some true

/-- A truth value that may be unknown is the truth value of its value. -/
theorem Value.toBool?_ofTruth (truth : Option Bool) : (Value.ofTruth truth).toBool? = truth := by
  cases truth <;> rfl

/-- A conjunction is decided to be true only by two sides that are. -/
theorem Connective.decide?_and_eq_true_iff {a b : Option Bool} :
    Connective.and.decide? a b = some true ↔ a = some true ∧ b = some true := by
  rcases a with _ | _ | _ <;> rcases b with _ | _ | _ <;> decide

/-- A conjunction is true exactly when both sides are.  A left side that fails or is unknown,
and a left side that decides the conjunction before the right one is looked at, make it
anything but true. -/
theorem TypedExpr.holds_and_iff {left right : TypedExpr} {row : Row} :
    (connect .and left right).Holds row ↔ left.Holds row ∧ right.Holds row := by
  unfold Holds
  rw [evaluate_connect]
  constructor
  · rintro ⟨v, hv, htrue⟩
    obtain ⟨l, hl, h⟩ := bind_eq_ok_iff.1 hv
    split at h
    · obtain rfl := Except.ok.inj h
      cases htrue
    · obtain ⟨r, hr, heq⟩ := bind_eq_ok_iff.1 h
      obtain rfl := Except.ok.inj heq
      rw [Value.toBool?_ofTruth, Connective.decide?_and_eq_true_iff] at htrue
      exact ⟨⟨l, hl, htrue.1⟩, r, hr, htrue.2⟩
  · rintro ⟨⟨l, hl, hltrue⟩, r, hr, hrtrue⟩
    refine ⟨.boolean true, ?_, rfl⟩
    have hopen : ¬ l.toBool? = some Connective.and.decisive := by
      rw [hltrue]
      decide
    have hboth := Connective.decide?_and_eq_true_iff.2 ⟨hltrue, hrtrue⟩
    refine bind_eq_ok_iff.2 ⟨l, hl, ?_⟩
    rw [if_neg hopen]
    refine bind_eq_ok_iff.2 ⟨r, hr, ?_⟩
    rw [hboth]
    rfl

/-! ## Predicates -/

namespace Predicate

variable {config : Config} {functions : Registry} {windowed : Bool} {schema : Schema}

/-- A predicate keeps exactly the records with a row on which its expression is true. -/
theorem test_eq_true_iff {predicate : Predicate} {key : RecordKey} {row : Option Row} :
    predicate.test key row = true ↔
      ∃ r, row = some r ∧ predicate.expr.typed.Holds (predicate.extend key r) := by
  rcases row with _ | r
  · simp
  · change predicate.testRow key r = true ↔ _
    have hvalue : predicate.testRow key r = true ↔
        predicate.expr.typed.Holds (predicate.extend key r) := by
      rw [testRow, TypedExpr.Holds, CompiledExpr.evaluate]
      rcases predicate.expr.typed.evaluate (predicate.extend key r) with e | v
      · simp
      · simp
    simp [hvalue]

/-- The conjunction of two filters compiles, and keeps exactly what both keep. -/
theorem compile_and {p q : Expr} {first second : Predicate}
    (hp : compile config functions windowed schema p = .ok first)
    (hq : compile config functions windowed schema q = .ok second) :
    ∃ both, compile config functions windowed schema (.connect .and p q) = .ok both ∧
      ∀ key row, both.test key row = (first.test key row && second.test key row) := by
  obtain ⟨t, ht, htype, rfl⟩ := compile_eq_ok_iff.1 hp
  obtain ⟨u, hu, hutype, rfl⟩ := compile_eq_ok_iff.1 hq
  have htyped : (Expr.connect .and p q).typed (schemaFor config windowed schema) functions =
      .ok (.connect .and t u) := by
    rw [Expr.typed_connect]
    refine bind_eq_ok_iff.2 ⟨t, ht, bind_eq_ok_iff.2 ⟨t, if_pos htype, ?_⟩⟩
    exact bind_eq_ok_iff.2 ⟨u, hu, bind_eq_ok_iff.2 ⟨u, if_pos hutype, rfl⟩⟩
  refine ⟨_, compile_eq_ok_iff.2 ⟨_, htyped, rfl, rfl⟩, fun key row => ?_⟩
  rw [Bool.eq_iff_iff, Bool.and_eq_true, test_eq_true_iff, test_eq_true_iff, test_eq_true_iff]
  constructor
  · rintro ⟨r, hr, hholds⟩
    obtain ⟨hleft, hright⟩ := TypedExpr.holds_and_iff.1 hholds
    exact ⟨⟨r, hr, hleft⟩, r, hr, hright⟩
  · rintro ⟨⟨r, rfl, hleft⟩, s, hs, hright⟩
    obtain rfl := Option.some.inj hs
    exact ⟨r, rfl, TypedExpr.holds_and_iff.2 ⟨hleft, hright⟩⟩

end Predicate

/-! ## Filters one after the other -/

namespace Planner

/-- Filter a node by one expression after the other. -/
def filterAll (planner : Planner) (input : PlanNode) : List Expr → Build PlanNode
  | [] => pure input
  | e :: rest => do
    let node ← planner.filter input e
    planner.filterAll node rest

/-- A filter that compiles is returned in every session.  Its node has the form, the schema and
the keys of its input, and the records that the predicate keeps. -/
theorem exec_filter_of_compile (planner : Planner) {input : PlanNode} {e : Expr}
    {predicate : Predicate}
    (h : Predicate.compile planner.config planner.functions input.keyFormat.isWindowed
      input.schema e = .ok predicate) (session : Session) :
    ∃ node after, (planner.filter input e).exec session = (.ok node, after) ∧
      node.form = input.form ∧ node.schema = input.schema ∧ node.keyFormat = input.keyFormat ∧
      node.keyField = input.keyField ∧ ∀ records, node.pipeline.run records =
        (input.pipeline.run records).filter fun record => predicate.test record.key record.row := by
  have hdraft := draftFilter_eq_ok_iff.2 ⟨predicate, h, rfl⟩
  have hcalls : ∀ c ∈ [input.form.filterCall], c.mayFail = false := by
    intro c hc
    obtain rfl := List.mem_singleton.1 hc
    cases input.form <;> rfl
  exact ⟨_, _, planner.exec_carryOut_of_total hdraft hcalls session, rfl, rfl, rfl, rfl,
    fun _ => rfl⟩

/-- Filters that all compile against the input are returned one after the other in every
session, and keep the records that all of their predicates keep. -/
theorem exec_filterAll (planner : Planner) {input : PlanNode} {es : List Expr}
    {predicates : List Predicate}
    (h : List.Forall₂ (fun e predicate =>
      Predicate.compile planner.config planner.functions input.keyFormat.isWindowed
        input.schema e = .ok predicate) es predicates) (session : Session) :
    ∃ node after, (planner.filterAll input es).exec session = (.ok node, after) ∧
      ∀ records, node.pipeline.run records =
        (input.pipeline.run records).filter fun record =>
          predicates.all fun predicate => predicate.test record.key record.row := by
  induction es generalizing input session predicates with
  | nil =>
    cases h
    exact ⟨input, session, rfl, fun records => by simp⟩
  | cons e rest ih =>
    obtain ⟨predicate, others, hfirst, hrest, rfl⟩ := List.forall₂_cons_left_iff.1 h
    obtain ⟨node, between, hnode, -, hschema, hformat, -, hrun⟩ :=
      planner.exec_filter_of_compile hfirst session
    rw [← hformat, ← hschema] at hrest
    obtain ⟨last, after, hlast, hkept⟩ := ih hrest between
    refine ⟨last, after, Build.exec_bind_eq_ok_iff.2 ⟨node, between, hnode, hlast⟩, ?_⟩
    intro records
    rw [hkept, hrun, List.filter_filter]
    exact List.filter_congr fun record _ => by rw [List.all_cons, Bool.and_comm]

/-- Over every schema, configuration and key format, the conjunction of two filters compiles
and keeps exactly the records that both keep, tombstones and rows on which either side is
unknown or fails included.  So of every node, in every session, a filter by the one and then
the other, in either order, and a filter by the conjunction are returned and keep the same
records. -/
theorem filters_fuse {config : Config} {functions : Registry} {format : KeyFormat}
    {schema : Schema} {p q : Expr} {first second : Predicate}
    (hp : Predicate.compile config functions format.isWindowed schema p = .ok first)
    (hq : Predicate.compile config functions format.isWindowed schema q = .ok second) :
    ∃ both, Predicate.compile config functions format.isWindowed schema (.connect .and p q) =
        .ok both ∧
      (∀ key row, both.test key row = (first.test key row && second.test key row)) ∧
      ∀ (planner : Planner) (input : PlanNode), planner.config = config →
        planner.functions = functions → input.keyFormat = format → input.schema = schema →
        ∀ es ∈ [[p, q], [q, p], [.connect .and p q]], ∀ session,
          ∃ node after, (planner.filterAll input es).exec session = (.ok node, after) ∧
            ∀ records, node.pipeline.run records =
              (input.pipeline.run records).filter fun record =>
                both.test record.key record.row := by
  obtain ⟨both, hboth, htest⟩ := Predicate.compile_and hp hq
  refine ⟨both, hboth, htest, ?_⟩
  rintro planner input rfl rfl rfl rfl es hes session
  -- Each list comes with the predicates of its members, whose conjunction is `both`.
  obtain ⟨predicates, hcompiled, hall⟩ : ∃ predicates, List.Forall₂ (fun e predicate =>
      Predicate.compile planner.config planner.functions input.keyFormat.isWindowed
        input.schema e = .ok predicate) es predicates ∧
      ∀ key row, (predicates.all fun predicate => predicate.test key row) =
        both.test key row := by
    simp only [List.mem_cons, List.not_mem_nil, or_false] at hes
    rcases hes with rfl | rfl | rfl
    · exact ⟨[first, second], .cons hp (.cons hq .nil), fun key row => by simp [htest]⟩
    · exact ⟨[second, first], .cons hq (.cons hp .nil), fun key row => by
        simp [htest, Bool.and_comm]⟩
    · exact ⟨[both], .cons hboth .nil, fun key row => by simp⟩
  obtain ⟨node, after, hnode, hrun⟩ := planner.exec_filterAll hcompiled session
  refine ⟨node, after, hnode, fun records => ?_⟩
  rw [hrun]
  exact List.filter_congr fun record _ => hall record.key record.row

/-- Whether the window of a key starts at a second or later. -/
def lateWindow : Expr := .compare .ge (.column ⟨none, "WINDOWSTART"⟩) (.literal (.int64 1000))

/-- Whether ten divided by the column `A` is above two; without a value where `A` is zero. -/
def smallDivisor : Expr :=
  .compare .gt (.arith .divide (.literal (.int32 10)) (.column ⟨none, "A"⟩)) (.literal (.int32 2))

/-- A windowed stream of numbers. -/
def windowedNumbers : PlanNode :=
  .source ⟨⟨0⟩, ⟨[⟨"A", .int32⟩]⟩, none, .windowed, ⟨.stream, .source⟩⟩ "numbers"

/-- The key `k` in the window of a second that starts at a time. -/
def keyFrom (start : Int64) : RecordKey := .windowed (.utf8 "k") ⟨start, start + 1000⟩

/-- Of five records of a windowed stream, with a divisor of zero, an early window, an unknown
divisor and a tombstone among them, both orders and the conjunction keep the same one. -/
theorem filters_fuse_windowed :
    ∃ first second, Predicate.compile .default .builtins true windowedNumbers.schema lateWindow =
        .ok first ∧
      Predicate.compile .default .builtins true windowedNumbers.schema smallDivisor =
        .ok second ∧
      ∀ es ∈ [[lateWindow, smallDivisor], [smallDivisor, lateWindow],
          [.connect .and lateWindow smallDivisor]],
        ∃ node after, (standard.filterAll windowedNumbers es).exec .empty = (.ok node, after) ∧
          node.pipeline.run
            [⟨keyFrom 2000, some ⟨[.int32 3]⟩⟩, ⟨keyFrom 2000, some ⟨[.int32 0]⟩⟩,
              ⟨keyFrom 0, some ⟨[.int32 3]⟩⟩, ⟨keyFrom 2000, some ⟨[.null]⟩⟩,
              ⟨keyFrom 2000, none⟩] =
            [⟨keyFrom 2000, some ⟨[.int32 3]⟩⟩] := by
  obtain ⟨first, second, hfirst, hsecond, hkept⟩ : ∃ first second,
      Predicate.compile .default .builtins true windowedNumbers.schema lateWindow =
        .ok first ∧
      Predicate.compile .default .builtins true windowedNumbers.schema smallDivisor =
        .ok second ∧
      ([⟨keyFrom 2000, some ⟨[.int32 3]⟩⟩, ⟨keyFrom 2000, some ⟨[.int32 0]⟩⟩,
        ⟨keyFrom 0, some ⟨[.int32 3]⟩⟩, ⟨keyFrom 2000, some ⟨[.null]⟩⟩,
        ⟨keyFrom 2000, none⟩] : List Record).filter
          (fun record => first.test record.key record.row && second.test record.key record.row) =
        [⟨keyFrom 2000, some ⟨[.int32 3]⟩⟩] := ⟨_, _, rfl, rfl, by decide⟩
  obtain ⟨both, -, htest, hnodes⟩ :=
    @filters_fuse .default .builtins .windowed _ _ _ _ _ hfirst hsecond
  refine ⟨first, second, hfirst, hsecond, fun es hes => ?_⟩
  obtain ⟨node, after, hnode, hrun⟩ := hnodes standard windowedNumbers rfl rfl rfl rfl es hes .empty
  refine ⟨node, after, hnode, ?_⟩
  rw [hrun, ← hkept]
  exact List.filter_congr fun record _ => htest record.key record.row

end Planner

end StreamPlan
