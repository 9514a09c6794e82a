/-!
# White space

The characters that surround a text without belonging to it, and their removal.

Main results:

- `trim`: a text without the blanks around it.
- `trimEnd_append_blanks`: blanks at the end are dropped.
-/

namespace StreamPlan.Text

/-- The characters with the Unicode property White_Space. -/
def isBlank (c : Char) : Bool :=
  let n := c.toNat
  (0x09 ≤ n && n ≤ 0x0D) || n == 0x20 || n == 0x85 || n == 0xA0 || n == 0x1680 ||
    (0x2000 ≤ n && n ≤ 0x200A) || n == 0x2028 || n == 0x2029 || n == 0x202F ||
    n == 0x205F || n == 0x3000

/-- Drop the blanks at the end of a text. -/
def trimEnd (cs : List Char) : List Char := (cs.reverse.dropWhile isBlank).reverse

/-- Drop the blanks at both ends of a text. -/
def trim (cs : List Char) : List Char := trimEnd (cs.dropWhile isBlank)

/-- Blanks at the end are dropped. -/
theorem trimEnd_append_blanks (cs blanks : List Char) (h : ∀ c ∈ blanks, isBlank c) :
    trimEnd (cs ++ blanks) = trimEnd cs := by
  have hb : ∀ c ∈ blanks.reverse, isBlank c := fun c hc => h c (List.mem_reverse.1 hc)
  simp [trimEnd, List.reverse_append, List.dropWhile_append_of_pos hb]

end StreamPlan.Text
