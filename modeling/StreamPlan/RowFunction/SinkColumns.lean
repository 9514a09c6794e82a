import StreamPlan.IndexSet
import StreamPlan.Schema
import StreamPlan.Value

/-!
# Columns left out of a sink

Rows written to a sink lose the columns that hold record keys.

Main results:

- `SinkColumns.applyRow`, `SinkColumns.applySchema`: what is written of a row, and its schema.
-/

namespace StreamPlan

/-- The columns that are not written. -/
structure SinkColumns where
  dropped : IndexSet
deriving DecidableEq

namespace SinkColumns

/-- The written values of a row. -/
def applyRow (columns : SinkColumns) (row : Row) : Row := ⟨columns.dropped.dropFrom row.columns⟩

/-- What is written for a row or a tombstone. -/
def apply (columns : SinkColumns) (row : Option Row) : Option Row := row.map columns.applyRow

/-- The schema of written rows. -/
def applySchema (columns : SinkColumns) (schema : Schema) : Schema :=
  ⟨columns.dropped.dropFrom schema.fields⟩

/-- The columns left out, in messages. -/
def debugText (columns : SinkColumns) : String :=
  "SinkValueMapper \x7b rowkey_indexes: " ++ columns.dropped.text ++ " \x7d"

end SinkColumns

end StreamPlan
