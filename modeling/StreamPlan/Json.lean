/-!
# JSON values

Values of the JSON data format, and the views under which records and variants are
decoded from them.  A number is an integer or a double.

A record is an object, or an array of its members in their declared order.  A
variant is an object with one member, named for the variant; a variant without
content may also be written as its bare name.

Main results:

- `Json.record?`: the members of a record in either form.
- `Json.bareName?_str`, `Json.bareName?_obj`: the two forms of a variant without content.
- `Json.items?_map`: an array is decoded item by item.
-/

namespace StreamPlan

/-- A JSON value; the members of an object stand in their order. -/
inductive Json where
  | null
  | bool (b : Bool)
  | int (n : Int)
  | double (x : Float)
  | str (s : String)
  | arr (items : List Json)
  | obj (members : List (String × Json))

namespace Json

/-! ## Scalars -/

/-- Whether a JSON value is null. -/
def isNull : Json → Bool
  | null => true
  | _ => false

/-- The truth value that a JSON value is. -/
def bool? : Json → Option Bool
  | bool b => some b
  | _ => none

/-- The integer that a JSON value is. -/
def int? : Json → Option Int
  | int n => some n
  | _ => none

/-- The natural number that a JSON value is. -/
def nat? : Json → Option Nat
  | int (.ofNat n) => some n
  | _ => none

/-- The double that a number is nearest to. -/
def double? : Json → Option Float
  | int n => some (Float.ofInt n)
  | double x => some x
  | _ => none

/-- The text that a JSON value is. -/
def str? : Json → Option String
  | str s => some s
  | _ => none

/-! ## Arrays -/

/-- The decoded elements of a list, if all of them can be decoded. -/
def decodeAll? {α : Type} (decode : Json → Option α) : List Json → Option (List α)
  | [] => some []
  | item :: rest => do
    let first ← decode item
    let others ← decodeAll? decode rest
    some (first :: others)

/-- The decoded items of an array. -/
def items? {α : Type} (decode : Json → Option α) : Json → Option (List α)
  | arr items => decodeAll? decode items
  | _ => none

/-- The two items of a pair. -/
def pair? : Json → Option (Json × Json)
  | arr [first, second] => some (first, second)
  | _ => none

/-! ## Variants -/

/-- The name of a variant without content: the bare name, or a name with null. -/
def bareName? : Json → Option String
  | str name => some name
  | obj [(name, null)] => some name
  | _ => none

/-- The name and the content of a variant. -/
def variant? : Json → Option (String × Json)
  | obj [(name, content)] => some (name, content)
  | _ => none

/-- A variant with content. -/
def variant (name : String) (content : Json) : Json := obj [(name, content)]

/-- The value of an enumeration that a bare name stands for. -/
def named? {α : Type} (all : List α) (name : α → String) (j : Json) : Option α :=
  j.bareName?.bind fun word => all.find? fun a => name a == word

/-! ## Records -/

/-- The members of a record: those of an object, or the items of an array under the
declared names, of which it has to have all. -/
def record? (names : List String) : Json → Option (List (String × Json))
  | obj members => some members
  | arr items => if items.length = names.length then some (names.zip items) else none
  | _ => none

/-- The members of a record that may end early: an array holds the first of its members. -/
def openRecord? (names : List String) : Json → Option (List (String × Json))
  | obj members => some members
  | arr items => if items.length ≤ names.length then some (names.zip items) else none
  | _ => none

/-- The first member with a name. -/
def member? (name : String) : List (String × Json) → Option Json
  | [] => none
  | (key, value) :: rest => if name = key then some value else member? name rest

/-- A member of a record, decoded; the record has to have it. -/
def required? {α : Type} (decode : Json → Option α) (name : String)
    (members : List (String × Json)) : Option α :=
  (member? name members).bind decode

/-- A member of a record, decoded; when it is absent a default takes its place. -/
def withDefault? {α : Type} (decode : Json → Option α) (default : α) (name : String)
    (members : List (String × Json)) : Option α :=
  match member? name members with
  | some j => decode j
  | none => some default

/-- A value that may be null. -/
def orNull? {α : Type} (decode : Json → Option α) : Json → Option (Option α)
  | null => some none
  | j => (decode j).map some

/-- A member of a record that may be null or absent. -/
def optional? {α : Type} (decode : Json → Option α) (name : String)
    (members : List (String × Json)) : Option (Option α) :=
  withDefault? (orNull? decode) none name members

/-- A value, or null in its absence. -/
def ofOption {α : Type} (encode : α → Json) : Option α → Json
  | some a => encode a
  | none => null

/-! ## What is written is read -/

/-- An object is a record as it stands. -/
@[simp] theorem record?_obj (names : List String) (members : List (String × Json)) :
    record? names (obj members) = some members := rfl

/-- A bare name is a variant without content. -/
@[simp] theorem bareName?_str (name : String) : bareName? (str name) = some name := rfl

/-- So is a name with null. -/
@[simp] theorem bareName?_obj (name : String) : bareName? (obj [(name, null)]) = some name := rfl

/-- The name and the content of a variant are found again. -/
@[simp] theorem variant?_variant (name : String) (content : Json) :
    variant? (variant name content) = some (name, content) := rfl

/-- Elements that can be read back one by one can be read back together. -/
theorem decodeAll?_map {α : Type} {decode : Json → Option α} {encode : α → Json} {xs : List α}
    (h : ∀ x ∈ xs, decode (encode x) = some x) :
    decodeAll? decode (xs.map encode) = some xs := by
  induction xs with
  | nil => rfl
  | cons x rest ih =>
    have hx := h x List.mem_cons_self
    have hrest := ih fun y hy => h y (List.mem_cons_of_mem x hy)
    simp [decodeAll?, hx, hrest]

/-- An array is decoded item by item. -/
theorem items?_map {α : Type} {decode : Json → Option α} {encode : α → Json} {xs : List α}
    (h : ∀ x ∈ xs, decode (encode x) = some x) :
    items? decode (arr (xs.map encode)) = some xs := decodeAll?_map h

/-- An optional value is read back when its encoding is never null. -/
theorem orNull?_ofOption {α : Type} {decode : Json → Option α} {encode : α → Json}
    {x : Option α} (hnull : ∀ a, encode a ≠ null) (h : ∀ a, x = some a → decode (encode a) = some a) :
    orNull? decode (ofOption encode x) = some x := by
  cases x with
  | none => rfl
  | some a =>
    have ha := h a rfl
    have hn := hnull a
    unfold ofOption
    dsimp only
    generalize encode a = j at ha hn
    cases j <;> simp_all [orNull?]

end Json

end StreamPlan
