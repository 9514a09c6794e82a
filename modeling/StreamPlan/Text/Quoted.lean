import StreamPlan.Text.CharClass

/-!
# Texts in messages

Texts inside double quotes, as diagnostics show them: a quote or backslash is
preceded by a backslash, line controls have letters, and characters without a
shape of their own are shown by their code.

Main results:

- `quoted`: the quoted form of a text.
- `optionText`, `listText`: values that may be absent, and lists of values.
-/

namespace StreamPlan.Text

/-- Hexadecimal digits of a code point, lower case and without leading zeros. -/
def hexCode (c : Char) : List Char := Nat.toDigits 16 c.toNat

/-- One character inside quotes. -/
def escapeChar (c : Char) : List Char :=
  if c = '\x22' then ['\x5c', '\x22']
  else if c = '\x5c' then ['\x5c', '\x5c']
  else if c = '\x00' then ['\x5c', '0']
  else if c = '\t' then ['\x5c', 't']
  else if c = '\r' then ['\x5c', 'r']
  else if c = '\n' then ['\x5c', 'n']
  else if isHidden c then ['\x5c', 'u', '\x7b'] ++ hexCode c ++ ['\x7d']
  else [c]

/-- A text between double quotes. -/
def quoted (s : String) : String :=
  String.ofList (['\x22'] ++ s.toList.flatMap escapeChar ++ ['\x22'])

/-- A value that may be absent. -/
def optionText (item : α → String) : Option α → String
  | some a => "Some(" ++ item a ++ ")"
  | none => "None"

/-- A list in brackets. -/
def listText (item : α → String) (xs : List α) : String :=
  "[" ++ ", ".intercalate (xs.map item) ++ "]"

end StreamPlan.Text
