import StreamPlan.Join
import StreamPlan.Json.Word

/-!
# Joins in JSON

A length of time is a record of seconds and nanoseconds; nanoseconds beyond a second
are carried over.  A join window is a record of two lengths of time.

Main results:

- `JoinKind.ofJson?_toJson`: a written join kind is read back.
- `Duration.ofJson?_toJson`, `JoinWindow.ofJson?_toJson`: so are lengths of time and
  join windows.
-/

namespace StreamPlan

namespace JoinKind

/-- The join kinds. -/
def all : List JoinKind := [inner, left, outer]

/-- The name of a join kind. -/
def name : JoinKind → String
  | inner => "Inner"
  | left => "Left"
  | outer => "Outer"

/-- A join kind as its name. -/
def toJson (kind : JoinKind) : Json := .str kind.name

/-- The join kind that a name stands for. -/
def ofJson? (j : Json) : Option JoinKind := j.named? all name

/-- A written join kind is read back. -/
@[simp] theorem ofJson?_toJson (kind : JoinKind) : ofJson? kind.toJson = some kind := by
  cases kind <;> rfl

end JoinKind

namespace Duration

/-- The members of a written length of time. -/
def memberNames : List String := ["secs", "nanos"]

/-- A length of time of seconds and any number of nanoseconds, when its seconds fit a word. -/
def ofNanos? (seconds : UInt64) (nanos : Nat) : Option Duration :=
  (Word.uint64? (seconds.toNat + nanos / 1000000000)).map fun total =>
    ⟨total, ⟨nanos % 1000000000, Nat.mod_lt _ (by decide)⟩⟩

/-- A length of time as a record. -/
def toJson (d : Duration) : Json :=
  .obj [("secs", .ofNat d.seconds.toNat), ("nanos", .ofNat d.nanos.val)]

/-- The length of time that a record without other members stands for. -/
def ofJson? (j : Json) : Option Duration := do
  let members ← j.record? memberNames
  if members.all fun member => memberNames.contains member.1 then
    let seconds ← Json.required? Json.uint64? "secs" members
    let nanos ← Json.required? Json.uint32? "nanos" members
    ofNanos? seconds nanos.toNat
  else none

/-- A length of time is made of its seconds and nanoseconds. -/
theorem ofNanos?_parts (d : Duration) : ofNanos? d.seconds d.nanos.val = some d := by
  obtain ⟨seconds, nanos, hnanos⟩ := d
  have hdiv : nanos / 1000000000 = 0 := Nat.div_eq_of_lt hnanos
  have hmod : nanos % 1000000000 = nanos := Nat.mod_eq_of_lt hnanos
  simp only [ofNanos?, hdiv, hmod, Nat.add_zero, Word.uint64?_toNat, Option.map_some]

/-- The nanoseconds of a length of time fit a word. -/
theorem uint32?_nanos (d : Duration) :
    Json.uint32? (.ofNat d.nanos.val) = some (UInt32.ofNat d.nanos.val) := by
  have h : d.nanos.val < 0x100000000 := by omega
  simp only [Json.uint32?, Json.nat?_ofNat, Option.bind_some, Word.uint32?, if_pos h]

/-- A written length of time is read back. -/
@[simp] theorem ofJson?_toJson (d : Duration) : ofJson? d.toJson = some d := by
  have hword : (UInt32.ofNat d.nanos.val).toNat = d.nanos.val := by
    apply UInt32.toNat_ofNat_of_lt'
    have : UInt32.size = 0x100000000 := rfl
    omega
  simp [ofJson?, toJson, memberNames, Json.required?, Json.member?, uint32?_nanos, hword,
    ofNanos?_parts]

end Duration

namespace JoinWindow

/-- The members of a written join window. -/
def memberNames : List String := ["before", "after"]

/-- A join window as a record. -/
def toJson (w : JoinWindow) : Json :=
  .obj [("before", w.before.toJson), ("after", w.after.toJson)]

/-- The join window that a record stands for. -/
def ofJson? (j : Json) : Option JoinWindow := do
  let members ← j.record? memberNames
  let before ← Json.required? Duration.ofJson? "before" members
  let after ← Json.required? Duration.ofJson? "after" members
  some ⟨before, after⟩

/-- A written join window is read back. -/
@[simp] theorem ofJson?_toJson (w : JoinWindow) : ofJson? w.toJson = some w := by
  simp [ofJson?, toJson, Json.required?, Json.member?]

end JoinWindow

end StreamPlan
