import StreamPlan.Config
import StreamPlan.Json.Word

/-!
# Configurations in JSON

A configuration is a record whose members may all be left out: the defaults take
their places.  A read configuration is not validated.

Main results:

- `Config.toJson`, `Config.ofJson?`: writing and reading a configuration.
- `Config.ofJson?_toJson`: a written configuration is read back.
-/

namespace StreamPlan.Config

/-- The members of a written configuration. -/
def memberNames : List String :=
  ["key_column_name", "window_start_column_name", "window_end_column_name", "sink_partitions",
    "sink_replicas"]

/-- The members of a configuration. -/
def members (config : Config) : List (String × Json) :=
  [("key_column_name", .str config.keyColumn),
    ("window_start_column_name", .str config.windowStartColumn),
    ("window_end_column_name", .str config.windowEndColumn),
    ("sink_partitions", .ofNat config.sinkPartitions.toNat),
    ("sink_replicas", .ofNat config.sinkReplicas.toNat)]

/-- A configuration as a record. -/
def toJson (config : Config) : Json := .obj config.members

/-- The configuration that members give, over the default one. -/
def ofMembers? (members : List (String × Json)) : Option Config := do
  let keyColumn ← Json.withDefault? Json.str? default.keyColumn "key_column_name" members
  let windowStart ←
    Json.withDefault? Json.str? default.windowStartColumn "window_start_column_name" members
  let windowEnd ←
    Json.withDefault? Json.str? default.windowEndColumn "window_end_column_name" members
  let partitions ←
    Json.withDefault? Json.uint32? default.sinkPartitions "sink_partitions" members
  let replicas ← Json.withDefault? Json.uint16? default.sinkReplicas "sink_replicas" members
  some ⟨keyColumn, windowStart, windowEnd, partitions, replicas⟩

/-- The configuration that a record stands for. -/
def ofJson? (j : Json) : Option Config := (j.openRecord? memberNames).bind ofMembers?

/-- A written configuration is read back. -/
@[simp] theorem ofJson?_toJson (config : Config) : ofJson? config.toJson = some config := by
  simp [ofJson?, toJson, members, ofMembers?, Json.openRecord?, Json.withDefault?, Json.member?,
    Json.str?]

end StreamPlan.Config
