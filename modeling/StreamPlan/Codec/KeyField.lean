import StreamPlan.Codec.DataType
import StreamPlan.KeyField
import StreamPlan.Plan.NodeId

/-!
# Keys and node identities in JSON

A key is a record of its name, its column and its type; the column of a synthetic key
is null.  A node identity is its number.

Main results:

- `KeyField.ofJson?_toJson`: a written key is read back.
- `KeyFormat.ofJson?_toJson`, `NodeId.ofJson?_toJson`: so are key formats and node
  identities.
-/

namespace StreamPlan

namespace KeyFormat

/-- The key formats. -/
def all : List KeyFormat := [plain, windowed]

/-- A key format as its name. -/
def toJson (format : KeyFormat) : Json := .str format.text

/-- The key format that a name stands for. -/
def ofJson? (j : Json) : Option KeyFormat := j.named? all text

/-- A written key format is read back. -/
@[simp] theorem ofJson?_toJson (format : KeyFormat) : ofJson? format.toJson = some format := by
  cases format <;> rfl

end KeyFormat

namespace KeyField

/-- The members of a written key. -/
def memberNames : List String := ["name", "index", "data_type"]

/-- A key as a record. -/
def toJson (key : KeyField) : Json :=
  .obj
    [("name", .str key.name), ("index", .ofOption .ofNat key.index),
      ("data_type", key.type.toJson)]

/-- The key that a record stands for. -/
def ofJson? (j : Json) : Option KeyField := do
  let members ← j.record? memberNames
  let name ← Json.required? Json.str? "name" members
  let index ← Json.optional? Json.nat? "index" members
  let type ← Json.required? DataType.ofJson? "data_type" members
  some ⟨name, index, type⟩

/-- A written key is read back. -/
@[simp] theorem ofJson?_toJson (key : KeyField) : ofJson? key.toJson = some key := by
  obtain ⟨name, index, type⟩ := key
  have hindex : Json.orNull? Json.nat? (.ofOption .ofNat index) = some index :=
    Json.orNull?_ofOption (fun n => by simp [Json.ofNat]) fun n _ => Json.nat?_ofNat n
  simp [ofJson?, toJson, Json.required?, Json.optional?, Json.withDefault?, Json.member?,
    Json.str?, hindex]

end KeyField

namespace NodeId

/-- A node identity as its number. -/
def toJson (id : NodeId) : Json := .ofNat id.index

/-- The node identity that a number stands for. -/
def ofJson? (j : Json) : Option NodeId := j.nat?.map NodeId.mk

/-- A written node identity is read back. -/
@[simp] theorem ofJson?_toJson (id : NodeId) : ofJson? id.toJson = some id := rfl

end NodeId

end StreamPlan
