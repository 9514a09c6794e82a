import StreamPlan.Codec.Config
import StreamPlan.Codec.Expr
import StreamPlan.Codec.Join
import StreamPlan.Codec.KeyField
import StreamPlan.Codec.Value
import StreamPlan.Proofs.Expr.Parts
import StreamPlan.Proofs.Json.TextRoundTrip

/-!
# Stored plan inputs

What a plan is made from is stored as JSON: expressions, the items of projections and
aggregations, keys, join windows, values, rows and configurations.  Where no double occurs, the
JSON stands for what was written, and its text does as well.  In a configuration the members that
are left out take their defaults.

The numbers of such JSON are words, and the members of its objects have fixed names, so that its
text is read back.

Main results:

- `Json.StandsFor`: a JSON value and its text are decoded as one value.
- `Expr.exact_toJson`: the JSON of an expression without doubles is read back from its text.
- `Config.ofJson?_someToJson`: a configuration of which members are left out.
- `planInputsStored`: plan inputs are read back.
-/

namespace StreamPlan

namespace Json

/-- A value that a JSON value is decoded as, and its text too. -/
structure StandsFor {α : Type} (j : Json) (decode : Json → Option α) (a : α) : Prop where
  value : decode j = some a
  text : (parse? j.text).bind decode = some a

section

variable {α : Type} {decode : Json → Option α} {a b : α} {j k : Json}

/-- What is decoded from an exact value is decoded from its text. -/
theorem Exact.standsFor (hexact : j.Exact) (h : decode j = some a) : j.StandsFor decode a where
  value := h
  text := by rw [parse?_text hexact, Option.bind_some, h]

/-- One text stands for one value. -/
theorem StandsFor.eq_of_text_eq (ha : j.StandsFor decode a) (hb : k.StandsFor decode b)
    (h : j.text = k.text) : a = b := by
  have htext := ha.text
  rw [h, hb.text] at htext
  exact (Option.some.inj htext).symm

/-! ## Exact JSON -/

/-- A variant is exact when its content is. -/
theorem Exact.variant {content : Json} (h : content.Exact) (name : String) :
    (variant name content).Exact := .obj (by simp) (by simpa using h)

/-- An array of two is exact when both are. -/
theorem Exact.pair (hj : j.Exact) (hk : k.Exact) : (Json.arr [j, k]).Exact :=
  .arr (by simpa using ⟨hj, hk⟩)

/-- A value that may be absent is exact when it is where present. -/
theorem exact_ofOption {encode : α → Json} {x : Option α}
    (h : ∀ a, x = some a → (encode a).Exact) : (ofOption encode x).Exact := by
  cases x with
  | none => exact .null
  | some a => exact h a rfl

/-- Natural numbers of a word are exact. -/
theorem exact_ofNat {n : Nat} (h : n < 0x10000000000000000) : (ofNat n).Exact :=
  .int ⟨by simp, by simp; omega⟩

/-- Signed words are exact. -/
theorem exact_int64 (v : Int64) : (int v.toInt).Exact := by
  have hleast := v.le_toInt
  have hgreatest := v.toInt_lt
  exact .int ⟨by omega, by omega⟩

/-- Short signed words are exact. -/
theorem exact_int32 (v : Int32) : (int v.toInt).Exact := by
  have hleast := v.le_toInt
  have hgreatest := v.toInt_lt
  exact .int ⟨by omega, by omega⟩

end

end Json

/-! ## Types and references -/

/-- The JSON of a type is exact. -/
theorem DataType.exact_toJson (type : DataType) : type.toJson.Exact := by
  induction type with
  | timestamp unit zone =>
    exact (Json.Exact.pair (.str _) (Json.exact_ofOption fun s _ => .str s)).variant _
  | time32 unit | time64 unit | duration unit | interval unit => exact (Json.Exact.str _).variant _
  | fixedSizeBinary width => exact (Json.exact_int32 width).variant _
  | dictionary key value hkey hvalue => exact (hkey.pair hvalue).variant _
  | decimal128 precision scale | decimal256 precision scale =>
    have hprecision := precision.toNat_lt
    have hleast := scale.le_toInt
    have hgreatest := scale.toInt_lt
    have hprecise : (Json.ofNat precision.toNat).Exact := Json.exact_ofNat (by omega)
    have hscale : (Json.int scale.toInt).Exact := .int ⟨by omega, by omega⟩
    exact (hprecise.pair hscale).variant _
  | _ => exact .str _

/-- The JSON of a reference is exact. -/
theorem ColumnRef.exact_toJson (column : ColumnRef) : column.toJson.Exact := by
  have hqualifier : (Json.ofOption .str column.qualifier).Exact :=
    Json.exact_ofOption fun s _ => .str s
  exact .obj (by simp) (by simp [hqualifier, Json.Exact.str])

/-! ## Expressions -/

namespace Expr

/-- No literal of an expression is a double. -/
def NoDouble (e : Expr) : Prop := e.AllParts fun part => ∀ x, part ≠ .literal (.float64 x)

end Expr

/-- The JSON of a literal other than a double is exact. -/
theorem Literal.exact_toJson {v : Literal} (h : ∀ x, v ≠ .float64 x) : v.toJson.Exact := by
  cases v with
  | int32 n => exact (Json.exact_int32 n).variant _
  | int64 n => exact (Json.exact_int64 n).variant _
  | float64 x => exact absurd rfl (h x)
  | utf8 s | time s => exact (Json.Exact.str s).variant _
  | boolean b => exact (Json.Exact.bool b).variant _
  | null => exact .str _

namespace Expr

/-- The JSON of an operation is exact when that of its sides is. -/
theorem exact_operationJson {left right : Json} (op : String) (hl : left.Exact)
    (hr : right.Exact) : (operationJson op left right).Exact :=
  (Json.Exact.obj (by simp) (by simp [hl, hr, Json.Exact.str])).variant _

/-- The JSON of expressions is exact when that of each is. -/
theorem exact_allToJson {es : List Expr} (h : ∀ e ∈ es, e.toJson.Exact) :
    (Json.arr (allToJson es)).Exact := by
  refine .arr ?_
  induction es with
  | nil => simp [allToJson]
  | cons e rest ih => simpa [allToJson] using ⟨h e List.mem_cons_self, ih fun x hx =>
      h x (List.mem_cons_of_mem e hx)⟩

/-- The JSON of branches is exact when that of each condition and result is. -/
theorem exact_branchesToJson {branches : List (Expr × Expr)}
    (h : ∀ branch ∈ branches, branch.1.toJson.Exact ∧ branch.2.toJson.Exact) :
    (Json.arr (branchesToJson branches)).Exact := by
  refine .arr ?_
  induction branches with
  | nil => simp [branchesToJson]
  | cons branch rest ih =>
    obtain ⟨hcond, hresult⟩ := h branch List.mem_cons_self
    simpa [branchesToJson] using ⟨hcond.pair hresult, ih fun x hx =>
      h x (List.mem_cons_of_mem branch hx)⟩

/-- The JSON of an expression is exact when that of its children is. -/
theorem exact_toJson_of_children {e : Expr} (h : ∀ x, e ≠ .literal (.float64 x))
    (hchildren : ∀ c ∈ e.children, c.toJson.Exact) : e.toJson.Exact := by
  cases e with
  | column c => exact c.exact_toJson.variant _
  | literal v => exact (Literal.exact_toJson fun x hx => h x (by rw [hx])).variant _
  | compare op l r | arith op l r =>
    have hl := hchildren l (by simp [children])
    have hr := hchildren r (by simp [children])
    exact exact_operationJson _ hl hr
  | cast e target =>
    have he := hchildren e (by simp [children])
    exact (Json.Exact.obj (by simp) (by simp [he, target.exact_toJson])).variant _
  | connect op l r =>
    have hl := hchildren l (by simp [children])
    have hr := hchildren r (by simp [children])
    exact (hl.pair hr).variant _
  | not e | isNull e | isNotNull e => exact (hchildren e (by simp [children])).variant _
  | case branches otherwise =>
    have hbranches : (Json.arr (branchesToJson branches)).Exact :=
      exact_branchesToJson fun branch hbranch =>
        ⟨hchildren _ (mem_children_of_branch hbranch).1,
          hchildren _ (mem_children_of_branch hbranch).2⟩
    have hotherwise : (otherwiseToJson otherwise).Exact := by
      cases otherwise with
      | none => exact .null
      | some e => exact hchildren e mem_children_of_otherwise
    exact (Json.Exact.obj (by simp) (by simp [hbranches, hotherwise])).variant _
  | call name arguments =>
    have harguments : (Json.arr (allToJson arguments)).Exact := exact_allToJson hchildren
    exact (Json.Exact.obj (by simp) (by simp [harguments, Json.Exact.str])).variant _

/-- The JSON of an expression without doubles is exact. -/
theorem exact_toJson {e : Expr} (h : e.NoDouble) : e.toJson.Exact := by
  induction e using induct_children with
  | step e ih => exact exact_toJson_of_children h.self fun c hc => ih c hc (h.child hc)

end Expr

/-! ## Items, keys and join windows -/

/-- The JSON of an item of a projection without doubles is exact. -/
theorem SelectItem.exact_toJson {item : SelectItem} (h : item.expr.NoDouble) :
    item.toJson.Exact :=
  .obj (by simp) (by simp [Expr.exact_toJson h, Json.Exact.str])

/-- No double occurs in the argument of an aggregate call. -/
def AggregateCall.NoDouble (call : AggregateCall) : Prop :=
  ∀ e, call.argument? = some e → e.NoDouble

/-- The JSON of an aggregate call without doubles is exact. -/
theorem AggregateCall.exact_toJson {call : AggregateCall} (h : call.NoDouble) :
    call.toJson.Exact := by
  cases call with
  | countAll => exact .str _
  | count e | sum e | min e | max e => exact (Expr.exact_toJson (h e rfl)).variant _

/-- The JSON of an item of an aggregation without doubles is exact. -/
theorem AggregateItem.exact_toJson {item : AggregateItem} (h : item.call.NoDouble) :
    item.toJson.Exact :=
  .obj (by simp) (by simp [AggregateCall.exact_toJson h, Json.Exact.str])

/-- The position of a key is a machine word, as positions of columns are. -/
def KeyField.PositionFits (key : KeyField) : Prop :=
  ∀ i, key.index = some i → i < 0x10000000000000000

/-- The JSON of a key is exact. -/
theorem KeyField.exact_toJson {key : KeyField} (h : key.PositionFits) : key.toJson.Exact := by
  have hindex : (Json.ofOption .ofNat key.index).Exact :=
    Json.exact_ofOption fun i hi => Json.exact_ofNat (h i hi)
  exact .obj (by simp) (by simp [hindex, key.type.exact_toJson, Json.Exact.str])

/-- The JSON of a length of time is exact. -/
theorem Duration.exact_toJson (d : Duration) : d.toJson.Exact := by
  have hseconds := Json.exact_ofNat d.seconds.toNat_lt
  have hnanos : (Json.ofNat d.nanos.val).Exact := Json.exact_ofNat (by omega)
  exact .obj (by simp) (by simp [hseconds, hnanos])

/-- The JSON of a join window is exact. -/
theorem JoinWindow.exact_toJson (w : JoinWindow) : w.toJson.Exact :=
  .obj (by simp) (by simp [w.before.exact_toJson, w.after.exact_toJson])

/-! ## Values and rows -/

/-- A value is no double. -/
def Value.NoDouble (v : Value) : Prop := ∀ x, v ≠ .float64 x

/-- The JSON of a value other than a double is exact. -/
theorem Value.exact_toJson {v : Value} (h : v.NoDouble) : v.toJson.Exact := by
  cases v with
  | null => exact .str _
  | boolean b => exact (Json.Exact.bool b).variant _
  | int32 n | time n => exact (Json.exact_int32 n).variant _
  | int64 n => exact (Json.exact_int64 n).variant _
  | float64 x => exact absurd rfl (h x)
  | utf8 s => exact (Json.Exact.str s).variant _

/-- The JSON of a row without doubles is exact. -/
theorem Row.exact_toJson {row : Row} (h : ∀ v ∈ row.columns, v.NoDouble) : row.toJson.Exact :=
  .arr (by simpa using fun v hv => Value.exact_toJson (h v hv))

/-! ## Configurations -/

namespace Config

/-- A configuration with the defaults in the members that are not kept. -/
def keeping (keep : String → Bool) (config : Config) : Config where
  keyColumn := if keep "key_column_name" then config.keyColumn else default.keyColumn
  windowStartColumn :=
    if keep "window_start_column_name" then config.windowStartColumn else default.windowStartColumn
  windowEndColumn :=
    if keep "window_end_column_name" then config.windowEndColumn else default.windowEndColumn
  sinkPartitions := if keep "sink_partitions" then config.sinkPartitions else default.sinkPartitions
  sinkReplicas := if keep "sink_replicas" then config.sinkReplicas else default.sinkReplicas

/-- Some of the members of a configuration, as a record. -/
def someToJson (keep : String → Bool) (config : Config) : Json :=
  .obj (config.members.filter fun member => keep member.1)

end Config

/-- Of the members that are kept the first one with a name is found. -/
theorem Json.member?_filter (keep : String → Bool) (name : String)
    (members : List (String × Json)) :
    member? name (members.filter fun member => keep member.1) =
      if keep name then member? name members else none := by
  induction members with
  | nil => simp [member?]
  | cons member rest ih =>
    obtain ⟨key, value⟩ := member
    by_cases hname : name = key
    · subst hname
      by_cases hkeep : keep name = true <;> simp [member?, hkeep, ih]
    · by_cases hkeep : keep key = true <;> simp [member?, hkeep, hname, ih]

/-- A member that is left out takes its default. -/
theorem Json.withDefault?_filter {α : Type} {decode : Json → Option α} {default : α}
    (keep : String → Bool) {name : String} {members : List (String × Json)} {a : α}
    (h : withDefault? decode default name members = some a) :
    withDefault? decode default name (members.filter fun member => keep member.1) =
      some (if keep name then a else default) := by
  by_cases hkeep : keep name = true
  · simpa [withDefault?, member?_filter, hkeep] using h
  · simp [withDefault?, member?_filter, hkeep]

namespace Config

/-- A configuration of which members are left out is read with the defaults in their places. -/
theorem ofJson?_someToJson (keep : String → Bool) (config : Config) :
    ofJson? (config.someToJson keep) = some (config.keeping keep) := by
  have hkey : Json.withDefault? Json.str? default.keyColumn "key_column_name" config.members =
      some config.keyColumn := by
    simp [members, Json.withDefault?, Json.member?, Json.str?]
  have hstart : Json.withDefault? Json.str? default.windowStartColumn "window_start_column_name"
      config.members = some config.windowStartColumn := by
    simp [members, Json.withDefault?, Json.member?, Json.str?]
  have hend : Json.withDefault? Json.str? default.windowEndColumn "window_end_column_name"
      config.members = some config.windowEndColumn := by
    simp [members, Json.withDefault?, Json.member?, Json.str?]
  have hpartitions : Json.withDefault? Json.uint32? default.sinkPartitions "sink_partitions"
      config.members = some config.sinkPartitions := by
    simp [members, Json.withDefault?, Json.member?]
  have hreplicas : Json.withDefault? Json.uint16? default.sinkReplicas "sink_replicas"
      config.members = some config.sinkReplicas := by
    simp [members, Json.withDefault?, Json.member?]
  simp [ofJson?, someToJson, Json.openRecord?, ofMembers?, keeping,
    Json.withDefault?_filter keep hkey, Json.withDefault?_filter keep hstart,
    Json.withDefault?_filter keep hend, Json.withDefault?_filter keep hpartitions,
    Json.withDefault?_filter keep hreplicas]

/-- The JSON of a configuration is exact. -/
theorem exact_toJson (config : Config) : config.toJson.Exact := by
  have hpartitions := config.sinkPartitions.toNat_lt
  have hreplicas := config.sinkReplicas.toNat_lt
  have hpartitions : (Json.ofNat config.sinkPartitions.toNat).Exact :=
    Json.exact_ofNat (by omega)
  have hreplicas : (Json.ofNat config.sinkReplicas.toNat).Exact := Json.exact_ofNat (by omega)
  exact .obj (by simp [members]) (by simp [members, Json.Exact.str, hpartitions, hreplicas])

/-- The JSON of some members of a configuration is exact. -/
theorem exact_someToJson (keep : String → Bool) (config : Config) :
    (config.someToJson keep).Exact := by
  cases config.exact_toJson with
  | obj hnames hmembers =>
    exact .obj (hnames.sublist (List.filter_sublist.map _))
      fun member hmember => hmembers member (List.mem_filter.1 hmember).1

end Config

/-! ## Plan inputs -/

/-- The JSON of plan inputs without doubles stands for them, and so does its text; the members that
a configuration is left without take their defaults. -/
structure PlanInputsStored : Prop where
  expr : ∀ e : Expr, e.NoDouble → e.toJson.StandsFor Expr.ofJson? e
  selectItem : ∀ item : SelectItem, item.expr.NoDouble →
    item.toJson.StandsFor SelectItem.ofJson? item
  aggregateItem : ∀ item : AggregateItem, item.call.NoDouble →
    item.toJson.StandsFor AggregateItem.ofJson? item
  keyField : ∀ key : KeyField, key.PositionFits → key.toJson.StandsFor KeyField.ofJson? key
  joinWindow : ∀ w : JoinWindow, w.toJson.StandsFor JoinWindow.ofJson? w
  value : ∀ v : Value, v.NoDouble → v.toJson.StandsFor Value.ofJson? v
  row : ∀ row : Row, (∀ v ∈ row.columns, v.NoDouble) → row.toJson.StandsFor Row.ofJson? row
  config : ∀ config : Config, config.toJson.StandsFor Config.ofJson? config
  configWithout : ∀ (keep : String → Bool) (config : Config),
    (config.someToJson keep).StandsFor Config.ofJson? (config.keeping keep)

/-- Plan inputs are read back from their JSON and from its text. -/
theorem planInputsStored : PlanInputsStored where
  expr e h := (Expr.exact_toJson h).standsFor e.ofJson?_toJson
  selectItem item h := (SelectItem.exact_toJson h).standsFor item.ofJson?_toJson
  aggregateItem item h := (AggregateItem.exact_toJson h).standsFor item.ofJson?_toJson
  keyField key h := (KeyField.exact_toJson h).standsFor key.ofJson?_toJson
  joinWindow w := w.exact_toJson.standsFor w.ofJson?_toJson
  value v h := (Value.exact_toJson h).standsFor v.ofJson?_toJson
  row row h := (Row.exact_toJson h).standsFor row.ofJson?_toJson
  config config := config.exact_toJson.standsFor config.ofJson?_toJson
  configWithout keep config :=
    (config.exact_someToJson keep).standsFor (config.ofJson?_someToJson keep)

-- An absent alternative is written as null, the null literal as a variant.
example : (Expr.case [] none).toJson.text =
    "\x7b\"CaseWhen\":\x7b\"branches\":[],\"else_expr\":null\x7d\x7d" := by decide

example : (Expr.case [] (some (.literal .null))).toJson.text =
    "\x7b\"CaseWhen\":\x7b\"branches\":[],\"else_expr\":\x7b\"Literal\":\"Null\"\x7d\x7d\x7d" := by
  decide

end StreamPlan
