import StreamPlan.Text.CaseTable
import StreamPlan.Text.CharClass

/-!
# Upper and lower case

Case mapping of whole texts.  A letter may map to several letters, and a capital
sigma maps to its final form at the end of a word.

Main results:

- `upperCase`, `lowerCase`: the two mappings.
-/

namespace StreamPlan.Text

/-- The mapped form of `c`: several letters, one letter, or `c` itself. -/
def mapCase (specials : List (Nat × List Nat)) (runs : List CaseRun) (c : Char) : List Char :=
  match specials.lookup c.toNat with
  | some codes => codes.map Char.ofNat
  | none =>
    match runs.findSome? fun run => run.shifted? c.toNat with
    | some code => [Char.ofNat code]
    | none => [c]

/-- Upper case form of one letter. -/
def upperChar (c : Char) : List Char :=
  if c.toNat < 0x80 then [c.toUpper] else mapCase upperSpecials upperRuns c

/-- Lower case form of one letter, whatever surrounds it. -/
def lowerChar (c : Char) : List Char :=
  if c.toNat < 0x80 then [c.toLower] else mapCase lowerSpecials lowerRuns c

/-- Upper case of a text. -/
def upperCase (cs : List Char) : List Char := cs.flatMap upperChar

/-- Whether the next character that is not ignored is a letter. -/
def reachesLetter (cs : List Char) : Bool :=
  match cs.dropWhile isCaseIgnorable with
  | c :: _ => isCased c
  | [] => false

/-- Lower case of `cs`, where `before` holds the characters before it, last one first.
A sigma after a letter takes its final form unless another letter follows. -/
def lowerCaseAfter (before : List Char) : List Char → List Char
  | [] => []
  | c :: cs =>
    let form :=
      if c = 'Σ' then
        if reachesLetter before && !reachesLetter cs then ['ς'] else ['σ']
      else lowerChar c
    form ++ lowerCaseAfter (c :: before) cs

/-- Lower case of a text. -/
def lowerCase (cs : List Char) : List Char := lowerCaseAfter [] cs

end StreamPlan.Text
