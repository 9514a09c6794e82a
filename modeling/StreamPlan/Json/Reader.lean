import StreamPlan.Json.Number

/-!
# Reading JSON

A text is read character by character.  Between two characters the reader holds the
containers that are open, the innermost one first, and the place it has reached in
them.

Of two members of an object with one name the later one counts.

Main results:

- `Json.Reader.step?`: what one character does.
- `Json.parse?`: the value that a text spells.
- `Json.Reader.run?_append`: a text is read in pieces.
-/

namespace StreamPlan.Json

/-! ## Scalars -/

/-- White space between the parts of a text. -/
def isSpace (c : Char) : Bool := c == ' ' || c == '\n' || c == '\t' || c == '\r'

/-- The value of a hexadecimal digit. -/
def hexDigit? (c : Char) : Option Nat :=
  if c.isDigit then some (c.toNat - '0'.toNat)
  else if 'a' ≤ c ∧ c ≤ 'f' then some (c.toNat - 'a'.toNat + 10)
  else if 'A' ≤ c ∧ c ≤ 'F' then some (c.toNat - 'A'.toNat + 10)
  else none

/-- The number that four hexadecimal digits write. -/
def hexUnit? (a b c d : Char) : Option Nat := do
  let a ← hexDigit? a
  let b ← hexDigit? b
  let c ← hexDigit? c
  let d ← hexDigit? d
  some (((a * 16 + b) * 16 + c) * 16 + d)

/-- The character that a unit of sixteen bits is, unless it is half of a pair. -/
def charOfUnit? (n : Nat) : Option Char :=
  if 0xD800 ≤ n ∧ n < 0xE000 then none else some (Char.ofNat n)

/-- The character that two halves of a pair stand for. -/
def charOfPair? (high low : Nat) : Option Char :=
  if 0xD800 ≤ high ∧ high < 0xDC00 ∧ 0xDC00 ≤ low ∧ low < 0xE000 then
    some (Char.ofNat (0x10000 + (high - 0xD800) * 0x400 + (low - 0xDC00)))
  else none

/-- The character that a letter after a backslash stands for. -/
def escaped? : Char → Option Char
  | '\x22' => some '\x22'
  | '\x5c' => some '\x5c'
  | '/' => some '/'
  | 'b' => some '\x08'
  | 'f' => some '\x0c'
  | 'n' => some '\n'
  | 'r' => some '\r'
  | 't' => some '\t'
  | _ => none

/-- The characters between two quotes, with their escapes resolved. -/
def unescape? : List Char → Option (List Char)
  | [] => some []
  | '\x5c' :: 'u' :: a :: b :: c :: d :: '\x5c' :: 'u' :: e :: f :: g :: h :: cs => do
    let first ← hexUnit? a b c d
    match charOfUnit? first with
    | some character =>
      let others ← unescape? ('\x5c' :: 'u' :: e :: f :: g :: h :: cs)
      some (character :: others)
    | none =>
      let second ← hexUnit? e f g h
      let character ← charOfPair? first second
      let others ← unescape? cs
      some (character :: others)
  | '\x5c' :: 'u' :: a :: b :: c :: d :: cs => do
    let unit ← hexUnit? a b c d
    let character ← charOfUnit? unit
    let others ← unescape? cs
    some (character :: others)
  | '\x5c' :: c :: cs => do
    let character ← escaped? c
    let others ← unescape? cs
    some (character :: others)
  | c :: cs =>
    if c = '\x5c' ∨ c.toNat < 0x20 then none else (unescape? cs).map (c :: ·)

/-- The value that a word without quotes spells. -/
def ofWord? (cs : List Char) : Option Json :=
  if cs = ['n', 'u', 'l', 'l'] then some null
  else if cs = ['t', 'r', 'u', 'e'] then some (bool true)
  else if cs = ['f', 'a', 'l', 's', 'e'] then some (bool false)
  else ofNumeral? cs

/-! ## The reader -/

/-- A container that is not closed yet, with what it holds so far, last first. -/
inductive Open where
  | items (before : List Json)
  | members (before : List (String × Json))
  /-- An object that waits for the value of a name. -/
  | member (before : List (String × Json)) (name : String)

/-- The place a reader has reached. -/
inductive Place where
  /-- Before a value. -/
  | value
  /-- Before the first item of an array, or its end. -/
  | firstItem
  /-- Before a member of an object. -/
  | name
  /-- Before the first member of an object, or its end. -/
  | firstName
  /-- Behind the name of a member. -/
  | colon
  /-- Behind a value. -/
  | done (value : Json)
  /-- Between quotes, behind some characters, last first. -/
  | quoted (raw : List Char) (afterBackslash : Bool)
  /-- In a word or a numeral, behind some characters, last first. -/
  | word (raw : List Char)

/-- What is known of a text between two of its characters. -/
structure Reader where
  context : List Open
  place : Place

namespace Reader

/-- Before the first character. -/
def start : Reader := ⟨[], .value⟩

/-- Put a member in front of the others, in place of one with its name. -/
def addMember (name : String) (j : Json) (before : List (String × Json)) :
    List (String × Json) :=
  (name, j) :: before.filter fun member => member.1 != name

/-- The character that begins a value. -/
def beginValue (context : List Open) (c : Char) : Reader :=
  if c = '[' then ⟨.items [] :: context, .firstItem⟩
  else if c = '\x7b' then ⟨.members [] :: context, .firstName⟩
  else if c = '\x22' then ⟨context, .quoted [] false⟩
  else ⟨context, .word [c]⟩

/-- The character behind a value. -/
def afterValue? (context : List Open) (j : Json) (c : Char) : Option Reader :=
  if isSpace c then some ⟨context, .done j⟩
  else
    match context, c with
    | .items before :: outer, ',' => some ⟨.items (j :: before) :: outer, .value⟩
    | .items before :: outer, ']' => some ⟨outer, .done (arr (j :: before).reverse)⟩
    | .member before name :: outer, ',' =>
      some ⟨.members (addMember name j before) :: outer, .name⟩
    | .member before name :: outer, '\x7d' =>
      some ⟨outer, .done (obj (addMember name j before).reverse)⟩
    | _, _ => none

/-- The quote that ends a text: the text is a name where an object waits for one, and a
value anywhere else. -/
def endQuoted? (context : List Open) (raw : List Char) : Option Reader :=
  (unescape? raw.reverse).map fun cs =>
    match context with
    | .members before :: outer => ⟨.member before (String.ofList cs) :: outer, .colon⟩
    | context => ⟨context, .done (str (String.ofList cs))⟩

/-- A character between quotes. -/
def insideQuoted? (context : List Open) (raw : List Char) (afterBackslash : Bool) (c : Char) :
    Option Reader :=
  if afterBackslash then some ⟨context, .quoted (c :: raw) false⟩
  else if c = '\x22' then endQuoted? context raw
  else some ⟨context, .quoted (c :: raw) (c == '\x5c')⟩

/-- Whether a character may stand in a word or a numeral. -/
def inWord (c : Char) : Bool := c.isAlphanum || c == '-' || c == '+' || c == '.'

/-- A character in a word, or behind it. -/
def insideWord? (context : List Open) (raw : List Char) (c : Char) : Option Reader :=
  if inWord c then some ⟨context, .word (c :: raw)⟩
  else (ofWord? raw.reverse).bind fun j => afterValue? context j c

/-- What one character does. -/
def step? (reader : Reader) (c : Char) : Option Reader :=
  match reader.place with
  | .done j => afterValue? reader.context j c
  | .quoted raw afterBackslash => insideQuoted? reader.context raw afterBackslash c
  | .word raw => insideWord? reader.context raw c
  | place =>
    if isSpace c then some reader
    else
      match place, reader.context, c with
      | .firstItem, .items _ :: outer, ']' => some ⟨outer, .done (arr [])⟩
      | .firstName, .members _ :: outer, '\x7d' => some ⟨outer, .done (obj [])⟩
      | .firstName, context, '\x22' => some ⟨context, .quoted [] false⟩
      | .name, context, '\x22' => some ⟨context, .quoted [] false⟩
      | .colon, context, ':' => some ⟨context, .value⟩
      | .value, context, c => some (beginValue context c)
      | .firstItem, context, c => some (beginValue context c)
      | _, _, _ => none

/-- What a piece of text does. -/
def run? (reader : Reader) : List Char → Option Reader
  | [] => some reader
  | c :: cs => (reader.step? c).bind fun next => next.run? cs

/-- The value that has been read, when the text may end. -/
def finish? (reader : Reader) : Option Json :=
  match reader.context, reader.place with
  | [], .done j => some j
  | [], .word raw => ofWord? raw.reverse
  | _, _ => none

/-- A text is read in pieces. -/
theorem run?_append (reader : Reader) (xs ys : List Char) :
    reader.run? (xs ++ ys) = (reader.run? xs).bind fun next => next.run? ys := by
  induction xs generalizing reader with
  | nil => rfl
  | cons c cs ih =>
    cases h : reader.step? c with
    | none => simp [run?, h]
    | some next => simp [run?, h, ih]

end Reader

/-- The value that a text spells. -/
def parse? (text : String) : Option Json :=
  (Reader.start.run? text.toList).bind Reader.finish?

end StreamPlan.Json
