import StreamPlan.Codec.DataType
import StreamPlan.Error

/-!
# Expressions in JSON

An expression is a variant: references and literals hold a record and a variant,
connectives the array of their sides, and all other forms an object of named parts.

What is decoded is a value that has been read as a whole.  Records that stand by themselves
may be arrays of their members there, but the parts of a variant may not: they have names,
and an array in their place is refused.  A decoder that works on the text while it reads it
could take an array for them too; that reading is left out, since nothing is ever written so.

Main results:

- `Expr.toJson`, `Expr.ofJson?`: writing and reading an expression.
- `Expr.ofJson?_toJson`: a written expression is read back.
- `SelectItem.ofJson?_toJson`, `AggregateItem.ofJson?_toJson`: so are the items of
  projections and aggregations.
-/

namespace StreamPlan

/-! ## References, literals and operations -/

namespace ColumnRef

/-- The members of a written reference. -/
def memberNames : List String := ["qualifier", "name"]

/-- A reference as a record. -/
def toJson (column : ColumnRef) : Json :=
  .obj [("qualifier", .ofOption .str column.qualifier), ("name", .str column.name)]

/-- The reference that a record stands for. -/
def ofJson? (j : Json) : Option ColumnRef := do
  let members ← j.record? memberNames
  let qualifier ← Json.optional? Json.str? "qualifier" members
  let name ← Json.required? Json.str? "name" members
  some ⟨qualifier, name⟩

/-- A written reference is read back. -/
@[simp] theorem ofJson?_toJson (column : ColumnRef) : ofJson? column.toJson = some column := by
  obtain ⟨qualifier, name⟩ := column
  have hqualifier : Json.orNull? Json.str? (.ofOption .str qualifier) = some qualifier :=
    Json.orNull?_ofOption (fun s => by simp) fun s _ => rfl
  simp [ofJson?, toJson, Json.required?, Json.optional?, Json.withDefault?, Json.member?,
    Json.str?, hqualifier]

end ColumnRef

namespace Literal

/-- A literal as the variant of its type. -/
def toJson : Literal → Json
  | int32 n => .variant "Int32" (.int n.toInt)
  | int64 n => .variant "Int64" (.int n.toInt)
  | float64 x => .variant "Float64" (.double x)
  | utf8 s => .variant "Utf8" (.str s)
  | boolean b => .variant "Boolean" (.bool b)
  | time s => .variant "Time" (.str s)
  | null => .str "Null"

/-- The literal that a variant with content is. -/
def ofVariant? (name : String) (content : Json) : Option Literal :=
  match name with
  | "Int32" => content.int32?.map int32
  | "Int64" => content.int64?.map int64
  | "Float64" => content.double?.map float64
  | "Utf8" => content.str?.map utf8
  | "Boolean" => content.bool?.map boolean
  | "Time" => content.str?.map time
  | _ => none

/-- The literal that a JSON value stands for. -/
def ofJson? (j : Json) : Option Literal :=
  if j.bareName? = some "Null" then some null
  else j.variant?.bind fun (name, content) => ofVariant? name content

/-- A written literal is read back. -/
@[simp] theorem ofJson?_toJson (v : Literal) : ofJson? v.toJson = some v := by
  cases v <;>
    simp [toJson, ofJson?, ofVariant?, Json.variant, Json.bareName?, Json.variant?, Json.bool?,
      Json.double?, Json.str?]

end Literal

/-- The comparisons. -/
def CompareOp.all : List CompareOp := [.eq, .ne, .lt, .le, .gt, .ge]

/-- The name of a comparison. -/
def CompareOp.name : CompareOp → String
  | .eq => "Eq"
  | .ne => "NotEq"
  | .lt => "Lt"
  | .le => "LtEq"
  | .gt => "Gt"
  | .ge => "GtEq"

/-- The arithmetic operations. -/
def ArithOp.all : List ArithOp := [.plus, .minus, .times, .divide, .modulo]

/-- The comparison or arithmetic operation with a name, on two sides. -/
def Expr.operation? (name : String) (left right : Expr) : Option Expr :=
  match CompareOp.all.find? fun op => op.name == name with
  | some op => some (.compare op left right)
  | none => (ArithOp.all.find? fun op => op.name == name).map fun op => .arith op left right

/-- The name of a connective. -/
def Connective.name : Connective → String
  | .and => "And"
  | .or => "Or"

/-! ## Writing expressions -/

/-- The parts of an operation. -/
def Expr.operationJson (op : String) (left right : Json) : Json :=
  .variant "BinaryOp" (.obj [("left", left), ("op", .str op), ("right", right)])

mutual

/-- An expression as a variant. -/
def Expr.toJson : Expr → Json
  | .column c => .variant "Column" c.toJson
  | .literal v => .variant "Literal" v.toJson
  | .compare op l r => Expr.operationJson op.name l.toJson r.toJson
  | .arith op l r => Expr.operationJson op.name l.toJson r.toJson
  | .cast e target => .variant "Cast" (.obj [("expr", e.toJson), ("to_type", target.toJson)])
  | .connect op l r => .variant op.name (.arr [l.toJson, r.toJson])
  | .not e => .variant "Not" e.toJson
  | .isNull e => .variant "IsNull" e.toJson
  | .isNotNull e => .variant "IsNotNull" e.toJson
  | .case branches otherwise =>
    .variant "CaseWhen"
      (.obj
        [("branches", .arr (Expr.branchesToJson branches)),
          ("else_expr", Expr.otherwiseToJson otherwise)])
  | .call name arguments =>
    .variant "Function" (.obj [("name", .str name), ("args", .arr (Expr.allToJson arguments))])

/-- A list of expressions. -/
def Expr.allToJson : List Expr → List Json
  | [] => []
  | e :: rest => e.toJson :: Expr.allToJson rest

/-- The branches of a case expression as pairs. -/
def Expr.branchesToJson : List (Expr × Expr) → List Json
  | [] => []
  | (cond, result) :: rest =>
    .arr [cond.toJson, result.toJson] :: Expr.branchesToJson rest

/-- The alternative of a case expression, or null. -/
def Expr.otherwiseToJson : Option Expr → Json
  | none => .null
  | some e => e.toJson

end

/-! ## Reading expressions -/

mutual

/-- The expression that a JSON value stands for. -/
def Expr.ofJson? : Json → Option Expr
  | .obj [(form, content)] =>
    match form with
    | "Column" => (ColumnRef.ofJson? content).map .column
    | "Literal" => (Literal.ofJson? content).map .literal
    | "BinaryOp" => Expr.operationOf? content
    | "Cast" => Expr.castOf? content
    | "And" => (Expr.pairOf? content).map fun sides => .connect .and sides.1 sides.2
    | "Or" => (Expr.pairOf? content).map fun sides => .connect .or sides.1 sides.2
    | "Not" => (Expr.ofJson? content).map .not
    | "IsNull" => (Expr.ofJson? content).map .isNull
    | "IsNotNull" => (Expr.ofJson? content).map .isNotNull
    | "CaseWhen" => Expr.caseOf? content
    | "Function" => Expr.callOf? content
    | _ => none
  | _ => none

/-- An operation from its parts. -/
def Expr.operationOf? : Json → Option Expr
  | .obj members => do
    let left ← Expr.memberOf? "left" members
    let op ← Json.required? Json.bareName? "op" members
    let right ← Expr.memberOf? "right" members
    Expr.operation? op left right
  | _ => none

/-- A cast from its parts. -/
def Expr.castOf? : Json → Option Expr
  | .obj members => do
    let inner ← Expr.memberOf? "expr" members
    let target ← Json.required? DataType.ofJson? "to_type" members
    some (.cast inner target)
  | _ => none

/-- A case expression from its parts. -/
def Expr.caseOf? : Json → Option Expr
  | .obj members => do
    let branches ← Expr.branchesIn? "branches" members
    let otherwise ← Expr.otherwiseIn? "else_expr" members
    some (.case branches otherwise)
  | _ => none

/-- A call from its parts. -/
def Expr.callOf? : Json → Option Expr
  | .obj members => do
    let name ← Json.required? Json.str? "name" members
    let arguments ← Expr.allIn? "args" members
    some (.call name arguments)
  | _ => none

/-- Two expressions in an array. -/
def Expr.pairOf? : Json → Option (Expr × Expr)
  | .arr [first, second] => do
    let first ← Expr.ofJson? first
    let second ← Expr.ofJson? second
    some (first, second)
  | _ => none

/-- Expressions in an array. -/
def Expr.itemsOf? : Json → Option (List Expr)
  | .arr items => Expr.allOf? items
  | _ => none

/-- Pairs of expressions in an array. -/
def Expr.pairItemsOf? : Json → Option (List (Expr × Expr))
  | .arr items => Expr.pairsOf? items
  | _ => none

/-- A list of expressions. -/
def Expr.allOf? : List Json → Option (List Expr)
  | [] => some []
  | item :: rest => do
    let first ← Expr.ofJson? item
    let others ← Expr.allOf? rest
    some (first :: others)

/-- A list of pairs of expressions. -/
def Expr.pairsOf? : List Json → Option (List (Expr × Expr))
  | [] => some []
  | item :: rest => do
    let first ← Expr.pairOf? item
    let others ← Expr.pairsOf? rest
    some (first :: others)

/-- The expression under a name. -/
def Expr.memberOf? (name : String) : List (String × Json) → Option Expr
  | [] => none
  | (key, value) :: rest =>
    if name = key then Expr.ofJson? value else Expr.memberOf? name rest

/-- The expressions under a name. -/
def Expr.allIn? (name : String) : List (String × Json) → Option (List Expr)
  | [] => none
  | (key, value) :: rest =>
    if name = key then Expr.itemsOf? value else Expr.allIn? name rest

/-- The pairs of expressions under a name. -/
def Expr.branchesIn? (name : String) : List (String × Json) → Option (List (Expr × Expr))
  | [] => none
  | (key, value) :: rest =>
    if name = key then Expr.pairItemsOf? value else Expr.branchesIn? name rest

/-- The expression under a name, which may be null or absent. -/
def Expr.otherwiseIn? (name : String) : List (String × Json) → Option (Option Expr)
  | [] => some none
  | (key, value) :: rest =>
    if name = key then
      if value.isNull then some none else (Expr.ofJson? value).map some
    else Expr.otherwiseIn? name rest

end

/-! ## What is written is read -/

/-- A written operation is read back from its name and its sides. -/
theorem Expr.ofJson?_operationJson {left right : Json} {l r : Expr} (op : String)
    (hl : Expr.ofJson? left = some l) (hr : Expr.ofJson? right = some r) :
    Expr.ofJson? (Expr.operationJson op left right) = Expr.operation? op l r := by
  simp [Expr.operationJson, Json.variant, Expr.ofJson?, Expr.operationOf?, Expr.memberOf?,
    Json.required?, Json.member?, hl, hr]

/-- A comparison is found by its name. -/
theorem Expr.operation?_compare (op : CompareOp) (l r : Expr) :
    Expr.operation? op.name l r = some (.compare op l r) := by
  cases op <;> rfl

/-- An arithmetic operation is found by its name. -/
theorem Expr.operation?_arith (op : ArithOp) (l r : Expr) :
    Expr.operation? op.name l r = some (.arith op l r) := by
  cases op <;> rfl

/-- Expressions that are read back one by one are read back together. -/
theorem Expr.allOf?_allToJson {es : List Expr} (h : ∀ e ∈ es, Expr.ofJson? e.toJson = some e) :
    Expr.allOf? (Expr.allToJson es) = some es := by
  induction es with
  | nil => rfl
  | cons e rest ih =>
    have he := h e List.mem_cons_self
    have hrest := ih fun x hx => h x (List.mem_cons_of_mem e hx)
    simp [Expr.allToJson, Expr.allOf?, he, hrest]

/-- Branches that are read back one by one are read back together. -/
theorem Expr.pairsOf?_branchesToJson {branches : List (Expr × Expr)}
    (h : ∀ b ∈ branches, Expr.ofJson? b.1.toJson = some b.1 ∧ Expr.ofJson? b.2.toJson = some b.2) :
    Expr.pairsOf? (Expr.branchesToJson branches) = some branches := by
  induction branches with
  | nil => rfl
  | cons b rest ih =>
    have hb := h b List.mem_cons_self
    have hrest := ih fun x hx => h x (List.mem_cons_of_mem b hx)
    simp [Expr.branchesToJson, Expr.pairsOf?, Expr.pairOf?, hb.1, hb.2, hrest]

/-- No expression is written as null. -/
theorem Expr.isNull_toJson (e : Expr) : e.toJson.isNull = false := by
  cases e <;> rfl

/-- A written expression is read back. -/
theorem Expr.ofJson?_toJson (e : Expr) : Expr.ofJson? e.toJson = some e := by
  induction e using Expr.induct with
  | column c => simp [Expr.toJson, Json.variant, Expr.ofJson?]
  | literal v => simp [Expr.toJson, Json.variant, Expr.ofJson?]
  | compare op l r hl hr =>
    rw [Expr.toJson, Expr.ofJson?_operationJson _ hl hr, Expr.operation?_compare]
  | arith op l r hl hr =>
    rw [Expr.toJson, Expr.ofJson?_operationJson _ hl hr, Expr.operation?_arith]
  | cast e target he =>
    simp [Expr.toJson, Json.variant, Expr.ofJson?, Expr.castOf?, Expr.memberOf?, Json.required?,
      Json.member?, he]
  | connect op l r hl hr =>
    cases op <;>
      simp [Expr.toJson, Json.variant, Connective.name, Expr.ofJson?, Expr.pairOf?, hl, hr]
  | not e he => simp [Expr.toJson, Json.variant, Expr.ofJson?, he]
  | isNull e he => simp [Expr.toJson, Json.variant, Expr.ofJson?, he]
  | isNotNull e he => simp [Expr.toJson, Json.variant, Expr.ofJson?, he]
  | case branches otherwise hbranches hotherwise =>
    have hall := Expr.pairsOf?_branchesToJson hbranches
    cases otherwise with
    | none =>
      simp [Expr.toJson, Json.variant, Expr.ofJson?, Expr.caseOf?, Expr.branchesIn?,
        Expr.pairItemsOf?, Expr.otherwiseIn?, Expr.otherwiseToJson, Json.isNull, hall]
    | some e =>
      have he := hotherwise e rfl
      simp [Expr.toJson, Json.variant, Expr.ofJson?, Expr.caseOf?, Expr.branchesIn?,
        Expr.pairItemsOf?, Expr.otherwiseIn?, Expr.otherwiseToJson, Expr.isNull_toJson, hall, he]
  | call name arguments harguments =>
    have hall := Expr.allOf?_allToJson harguments
    simp [Expr.toJson, Json.variant, Expr.ofJson?, Expr.callOf?, Expr.allIn?, Expr.itemsOf?,
      Json.required?, Json.member?, Json.str?, hall]

/-! ## Items of projections and aggregations -/

namespace SelectItem

/-- The members of a written item. -/
def memberNames : List String := ["name", "expr"]

/-- An item as a record. -/
def toJson (item : SelectItem) : Json :=
  .obj [("name", .str item.name), ("expr", item.expr.toJson)]

/-- The item that a record stands for. -/
def ofJson? (j : Json) : Option SelectItem := do
  let members ← j.record? memberNames
  let name ← Json.required? Json.str? "name" members
  let e ← Json.required? Expr.ofJson? "expr" members
  some ⟨name, e⟩

/-- A written item is read back. -/
theorem ofJson?_toJson (item : SelectItem) : ofJson? item.toJson = some item := by
  simp [ofJson?, toJson, Json.required?, Json.member?, Json.str?, Expr.ofJson?_toJson]

end SelectItem

namespace AggregateCall

/-- An aggregate call as a variant. -/
def toJson : AggregateCall → Json
  | countAll => .str "CountStar"
  | count e => .variant "Count" e.toJson
  | sum e => .variant "Sum" e.toJson
  | min e => .variant "Min" e.toJson
  | max e => .variant "Max" e.toJson

/-- The aggregate call of a name over an argument. -/
def ofVariant? (name : String) (argument : Json) : Option AggregateCall :=
  match name with
  | "Count" => (Expr.ofJson? argument).map count
  | "Sum" => (Expr.ofJson? argument).map sum
  | "Min" => (Expr.ofJson? argument).map min
  | "Max" => (Expr.ofJson? argument).map max
  | _ => none

/-- The aggregate call that a JSON value stands for. -/
def ofJson? (j : Json) : Option AggregateCall :=
  if j.bareName? = some "CountStar" then some countAll
  else j.variant?.bind fun (name, argument) => ofVariant? name argument

/-- A written aggregate call is read back. -/
theorem ofJson?_toJson (call : AggregateCall) : ofJson? call.toJson = some call := by
  cases call with
  | countAll => rfl
  | count e | sum e | min e | max e =>
    have he := Expr.ofJson?_toJson e
    have hn := Expr.isNull_toJson e
    simp only [toJson]
    generalize e.toJson = j at he hn
    cases j <;> simp_all [ofJson?, ofVariant?, Json.variant, Json.bareName?, Json.variant?,
      Json.isNull]

end AggregateCall

namespace AggregateItem

/-- The members of a written item. -/
def memberNames : List String := ["name", "agg"]

/-- An item as a record. -/
def toJson (item : AggregateItem) : Json :=
  .obj [("name", .str item.name), ("agg", item.call.toJson)]

/-- The item that a record stands for. -/
def ofJson? (j : Json) : Option AggregateItem := do
  let members ← j.record? memberNames
  let name ← Json.required? Json.str? "name" members
  let call ← Json.required? AggregateCall.ofJson? "agg" members
  some ⟨name, call⟩

/-- A written item is read back. -/
theorem ofJson?_toJson (item : AggregateItem) : ofJson? item.toJson = some item := by
  simp [ofJson?, toJson, Json.required?, Json.member?, Json.str?, AggregateCall.ofJson?_toJson]

end AggregateItem

end StreamPlan
