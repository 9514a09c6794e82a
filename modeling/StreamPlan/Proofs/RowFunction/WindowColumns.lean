import StreamPlan.Proofs.Expr.NamedColumns

/-!
# Window columns

Over windowed keys a filter is compiled against more columns than the row has: the bounds of the
window whose names the schema does not hold stand behind its fields, and their values stand
behind the row.  The two are extended apart, and one bound, both or none may be added.  Still
every reference keeps its meaning unless it asks for a bound by its bare name, and a bound that
is asked for is read from the key.

Main results:

- `Predicate.resolve_schemaFor`: references that ask for no bound.
- `Predicate.alike_compile_windowed`: filters over plain and over windowed keys.
- `Predicate.exists_place`, `Predicate.get_rowFor_bound`: where a bound stands.
- `Predicate.exists_reference`: a reference to a bound.
- `Predicate.windowColumns_conservative`: the bounds are a conservative extension.
-/

namespace StreamPlan

namespace Predicate

variable {config : Config} {schema : Schema}

/-! ## References that ask for no bound -/

/-- The names of the bounds carry no alias. -/
def BoundsDotFree (config : Config) : Prop :=
  ∀ bound : WindowBound, '.' ∉ (bound.column config).toList

/-- The reference asks for no bound by its bare name. -/
def AsksNoBound (config : Config) (c : ColumnRef) : Prop :=
  ∀ bound : WindowBound, c.name ≠ bound.column config

/-- The columns that show bounds. -/
def columnsOf (config : Config) (bounds : List WindowBound) : Schema :=
  ⟨bounds.map fun bound => ⟨bound.column config, .int64⟩⟩

/-- They are named after the bounds. -/
theorem names_columnsOf {bounds : List WindowBound} :
    (columnsOf config bounds).names = bounds.map (WindowBound.column config) :=
  List.map_map

/-- They stand behind the columns of the input. -/
theorem schemaFor_eq_append {windowed : Bool} :
    schemaFor config windowed schema =
      schema.append (columnsOf config (boundsFor config windowed schema)) := rfl

/-- A reference that asks for no bound means what it means in the schema. -/
theorem resolve_schemaFor (hfree : BoundsDotFree config) {c : ColumnRef}
    (hname : AsksNoBound config c) (windowed : Bool) :
    (schemaFor config windowed schema).resolve c = schema.resolve c := by
  rw [schemaFor_eq_append]
  apply Schema.resolve_append
  · intro name hmem
    obtain ⟨bound, -, rfl⟩ := List.mem_map.1 (names_columnsOf ▸ hmem)
    exact hfree bound
  · intro hmem
    obtain ⟨bound, -, hbound⟩ := List.mem_map.1 (names_columnsOf ▸ hmem)
    exact hname bound hbound.symm

/-- The columns of the row stand before the bounds. -/
theorem get_rowFor {row : Row} {i : Nat} (hi : i < row.width) (windowed : Bool)
    (key : RecordKey) : (rowFor config windowed schema key row).get i = row.get i := by
  have hcolumn : i < row.columns.length := hi
  rw [Row.get, Row.get, rowFor, List.getElem?_append_left hcolumn]

/-- It is alike over every two keys, with a window or without. -/
theorem alikeIn_schemaFor (hfree : BoundsDotFree config) {c : ColumnRef}
    (hname : AsksNoBound config c) {row : Row} (hwidth : schema.width ≤ row.width)
    (windowed₁ windowed₂ : Bool) (key₁ key₂ : RecordKey) :
    c.AlikeIn (schemaFor config windowed₁ schema) (rowFor config windowed₁ schema key₁ row)
      (schemaFor config windowed₂ schema) (rowFor config windowed₂ schema key₂ row) := by
  unfold ColumnRef.AlikeIn
  rw [resolve_schemaFor hfree hname, resolve_schemaFor hfree hname]
  cases hresolve : schema.resolve c with
  | error e => exact .error e
  | ok i =>
    have hi := Schema.resolve_lt_width hresolve
    refine .ok ⟨?_, ?_⟩
    · rw [schemaFor, schemaFor, Schema.typeAt_append_left hi, Schema.typeAt_append_left hi]
    · have hrow := Nat.lt_of_lt_of_le hi hwidth
      rw [get_rowFor hrow, get_rowFor hrow]

/-- A filter that asks for no bound compiles over windowed keys as over plain ones, to the same
error or to predicates that decide alike, whatever the keys. -/
theorem alike_compile_windowed (hfree : BoundsDotFree config) (functions : Registry) {e : Expr}
    (hname : ∀ c, e.Names c → AsksNoBound config c) :
    Alike (fun windowed plain => ∀ (key other : RecordKey) (row : Row),
        schema.width ≤ row.width → windowed.test key (some row) = plain.test other (some row))
      (compile config functions true schema e) (compile config functions false schema e) := by
  have hrows : ∀ (key other : RecordKey) (row : Row), schema.width ≤ row.width →
      Alike (fun p q => p.test key (some row) = q.test other (some row))
        (compile config functions true schema e) (compile config functions false schema e) :=
    fun key other row hwidth => alike_compile_of_alikeIn e fun c hc =>
      alikeIn_schemaFor hfree (hname c hc) hwidth true false key other
  -- One row is enough to see whether both compile.
  have hnulls : schema.width ≤ (Row.nulls schema.width).width := by
    simp [Row.nulls, Row.width]
  have hfirst := hrows (.plain .null) (.plain .null) _ hnulls
  generalize compile config functions true schema e = windowed at hrows hfirst ⊢
  generalize compile config functions false schema e = plain at hrows hfirst ⊢
  cases hfirst with
  | error cause => exact .error cause
  | ok _ =>
    refine .ok fun key other row hwidth => ?_
    cases hrows key other row hwidth with
    | ok related => exact related

/-! ## Bounds that are asked for -/

/-- The row that a compiled filter reads. -/
theorem extend_of_compile {functions : Registry} {windowed : Bool} {e : Expr}
    {predicate : Predicate} (h : compile config functions windowed schema e = .ok predicate)
    (key : RecordKey) (row : Row) :
    predicate.extend key row = rowFor config windowed schema key row := by
  obtain ⟨t, -, -, rfl⟩ := compile_eq_ok_iff.1 h
  rfl

/-- A valid configuration names the two bounds apart. -/
theorem column_injective (hvalid : config.validate = .ok ()) :
    Function.Injective (WindowBound.column config) := by
  obtain ⟨-, -, -, hapart, -⟩ := Config.validate_eq_ok_iff.1 hvalid
  intro a b h
  cases a <;> cases b
  · rfl
  · exact absurd h hapart
  · exact absurd h.symm hapart
  · rfl

/-- The bounds whose names the schema lacks are seen over windowed keys. -/
theorem mem_boundsFor_iff {bound : WindowBound} :
    bound ∈ boundsFor config true schema ↔ bound.column config ∉ schema.names := by
  rw [boundsFor, if_pos rfl, WindowBound.added, List.mem_filter, Option.isNone_iff_eq_none,
    Schema.indexOf?_eq_none_iff]
  refine and_iff_right ?_
  cases bound <;> simp

/-- Their names are distinct. -/
theorem nodup_boundsFor (hvalid : config.validate = .ok ()) :
    ((boundsFor config true schema).map (WindowBound.column config)).Nodup := by
  refine List.Nodup.map (column_injective hvalid) ?_
  rw [boundsFor, if_pos rfl]
  exact List.Nodup.filter _ (by decide)

/-- The column of a bound stands behind the schema where the value of the bound stands behind the
row. -/
theorem exists_place (hvalid : config.validate = .ok ()) {bound : WindowBound}
    (hmissing : bound.column config ∉ schema.names) :
    ∃ j, (boundsFor config true schema)[j]? = some bound ∧
      (schemaFor config true schema).indexOf? (bound.column config) = some (schema.width + j) ∧
      (schemaFor config true schema).typeAt (schema.width + j) = .int64 := by
  obtain ⟨j, hj⟩ := List.mem_iff_getElem?.1 (mem_boundsFor_iff.2 hmissing)
  have hfield : (columnsOf config (boundsFor config true schema)).fields[j]? =
      some ⟨bound.column config, .int64⟩ := by
    rw [columnsOf, List.getElem?_map, hj, Option.map_some]
  have hnames : (columnsOf config (boundsFor config true schema)).names.Nodup := by
    rw [names_columnsOf]
    exact nodup_boundsFor hvalid
  refine ⟨j, hj, ?_, ?_⟩
  · rw [schemaFor_eq_append, Schema.indexOf?_append_of_notMem hmissing,
      Schema.indexOf?_of_distinct hnames hfield, Option.map_some]
  · rw [schemaFor_eq_append, Schema.typeAt_append_right, Schema.typeAt_of_getElem? hfield]

/-- Behind a row of the width of the schema stand the values of the bounds. -/
theorem get_rowFor_bound {row : Row} (hwidth : row.width = schema.width) {windowed : Bool} {j : Nat}
    {bound : WindowBound} (hj : (boundsFor config windowed schema)[j]? = some bound)
    (key : RecordKey) :
    (rowFor config windowed schema key row).get (schema.width + j) = bound.value key := by
  have hcolumns : row.columns.length = schema.width := hwidth
  rw [Row.get, rowFor, List.getElem?_append_right (hcolumns ▸ Nat.le_add_right _ _), hcolumns,
    Nat.add_sub_cancel_left, List.getElem?_map, hj]
  rfl

/-- A bare reference to a bound whose name the schema lacks is compiled to a whole number that
the key tells. -/
theorem exists_reference (hvalid : config.validate = .ok ()) (functions : Registry)
    {bound : WindowBound} (hmissing : bound.column config ∉ schema.names) :
    ∃ reference, (Expr.column ⟨none, bound.column config⟩).compile
        (schemaFor config true schema) functions = .ok reference ∧
      reference.dataType = .int64 ∧
      ∀ (key : RecordKey) (row : Row), row.width = schema.width →
        reference.evaluate (rowFor config true schema key row) = .ok (bound.value key) := by
  obtain ⟨j, hj, hindex, htype⟩ := exists_place hvalid hmissing
  have hresolve := @Schema.resolve_of_fullName _ ⟨none, bound.column config⟩ _ hindex
  refine ⟨_, Expr.compile_column_eq_ok_iff.2 ⟨_, hresolve, rfl⟩, htype, fun key row hwidth => ?_⟩
  rw [CompiledExpr.evaluate, TypedExpr.evaluate_column, get_rowFor_bound hwidth hj]

/-! ## The extension -/

/-- The bounds of windows are added to what filters see without changing what they saw. -/
structure ExtendsConservatively (config : Config) (functions : Registry) (schema : Schema) :
    Prop where
  /-- A filter that asks for no bound compiles over windowed keys as over plain ones, and then
  both decide alike on every row as wide as the schema or wider, whatever the keys. -/
  unasked : ∀ {e : Expr}, (∀ c, e.Names c → AsksNoBound config c) →
    Alike (fun windowed plain => ∀ (key other : RecordKey) (row : Row),
        schema.width ≤ row.width → windowed.test key (some row) = plain.test other (some row))
      (compile config functions true schema e) (compile config functions false schema e)
  /-- A bound whose name the schema lacks is read by its bare name: on a row of the width of the
  schema every filter over windowed keys sees the bound that the key tells. -/
  asked : ∀ {bound : WindowBound}, bound.column config ∉ schema.names →
    ∃ reference, (Expr.column ⟨none, bound.column config⟩).compile
        (schemaFor config true schema) functions = .ok reference ∧
      reference.dataType = .int64 ∧
      ∀ {e : Expr} {predicate : Predicate},
        compile config functions true schema e = .ok predicate →
        ∀ (key : RecordKey) (row : Row), row.width = schema.width →
          reference.evaluate (predicate.extend key row) = .ok (bound.value key)

/-- Under a valid configuration whose bounds carry no alias, the bounds of windows are a
conservative extension of every schema. -/
theorem windowColumns_conservative {config : Config} (hvalid : config.validate = .ok ())
    (hfree : BoundsDotFree config) (functions : Registry) (schema : Schema) :
    ExtendsConservatively config functions schema where
  unasked hname := alike_compile_windowed hfree functions hname
  asked hmissing := by
    obtain ⟨reference, hreference, htype, hread⟩ := exists_reference hvalid functions hmissing
    refine ⟨reference, hreference, htype, fun hpredicate key row hwidth => ?_⟩
    rw [extend_of_compile hpredicate]
    exact hread key row hwidth

/-- Rows with a text where other rows show the start of their window. -/
def ownStart : Schema := ⟨[⟨"A", .int32⟩, ⟨"WINDOWSTART", .utf8⟩]⟩

/-- Only the end of the window is added to such rows.  A filter of another column keeps the row
under both keys, and the end is read behind the text. -/
theorem windowColumns_conservative_ownStart :
    ∃ windowed plain reference,
      compile .default .empty true ownStart aboveOne = .ok windowed ∧
        compile .default .empty false ownStart aboveOne = .ok plain ∧
        windowed.test (.windowed (.utf8 "k") ⟨2000, 3000⟩) (some ⟨[.int32 5, .utf8 "x"]⟩) = true ∧
        plain.test (.plain .null) (some ⟨[.int32 5, .utf8 "x"]⟩) = true ∧
        (Expr.column ⟨none, "WINDOWEND"⟩).compile (schemaFor .default true ownStart) .empty =
          .ok reference ∧
        reference.evaluate
            (windowed.extend (.windowed (.utf8 "k") ⟨2000, 3000⟩) ⟨[.int32 5, .utf8 "x"]⟩) =
          .ok (.int64 3000) := by
  have hextends := @windowColumns_conservative .default rfl
    (by rintro (_ | _) <;> decide) .empty ownStart
  have hnames : ∀ c, aboveOne.Names c → AsksNoBound .default c := by
    rintro c hc
    obtain rfl := eq_of_names_aboveOne hc
    rintro (_ | _) <;> decide
  obtain ⟨windowed, plain, hwindowed, hplain, hkept⟩ : ∃ windowed plain,
      compile .default .empty true ownStart aboveOne = .ok windowed ∧
      compile .default .empty false ownStart aboveOne = .ok plain ∧
      plain.test (.plain .null) (some ⟨[.int32 5, .utf8 "x"]⟩) = true := ⟨_, _, rfl, rfl, rfl⟩
  have halike := hextends.unasked hnames
  obtain ⟨reference, hreference, -, hread⟩ := @ExtendsConservatively.asked _ _ _ hextends .stop
    (by decide)
  have hend := hread hwindowed (.windowed (.utf8 "k") ⟨2000, 3000⟩) ⟨[.int32 5, .utf8 "x"]⟩ rfl
  rw [hwindowed, hplain] at halike
  cases halike with
  | ok related =>
    refine ⟨windowed, plain, reference, hwindowed, hplain, ?_, hkept, hreference, hend⟩
    rw [related _ (.plain .null) _ (by decide), hkept]

end Predicate

end StreamPlan
