import StreamPlan.Record

/-!
# Rekeying

A rekey takes the text of one column as the new key of a record.  Records without
a row or without a value in that column are dropped, and a second column may be
overwritten with the new key.

Main results:

- `Rekey.update_of_none`: without a second column rows stay as they are.
-/

namespace StreamPlan

/-- The column of the new key, and the column that is overwritten with it. -/
structure Rekey where
  keyIndex : Nat
  rowKeyIndex : Option Nat
deriving DecidableEq, Repr

namespace Rekey

/-- Whether a record is kept. -/
def accepts (rekey : Rekey) (row : Option Row) : Bool :=
  match row with
  | some row => !(row.get rekey.keyIndex).isNull
  | none => false

/-- The new key of a row. -/
def keyFor (rekey : Rekey) (row : Row) : Value := .utf8 (row.get rekey.keyIndex).text

/-- The row with the new key in its second column, if there is one. -/
def updateRow (rekey : Rekey) (row : Row) : Row :=
  match rekey.rowKeyIndex with
  | some i => row.set i (rekey.keyFor row)
  | none => row

/-- The update of a row or a tombstone. -/
def update (rekey : Rekey) (row : Option Row) : Option Row := row.map rekey.updateRow

/-- A rekey in messages. -/
def debugText (rekey : Rekey) : String :=
  "RekeyMapper \x7b key_index: " ++ toString rekey.keyIndex ++ ", rowkey_index: " ++
    Text.optionText (fun i => toString i) rekey.rowKeyIndex ++ " \x7d"

/-- Without a second column rows stay as they are. -/
theorem update_of_none {rekey : Rekey} (h : rekey.rowKeyIndex = none) (row : Option Row) :
    rekey.update row = row := by
  have : rekey.updateRow = id := by
    funext r
    simp [updateRow, h]
  simp [update, this]

end Rekey

end StreamPlan
