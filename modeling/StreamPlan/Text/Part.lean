import StreamPlan.Word

/-!
# Parts of a text

A part of a text begins at a position that counts from one, and may have a length.  Positions and
lengths are any integers; the bounds of the part are words of sixty-four bits and are kept inside
the text, so that a part can be cut out of every text.

Main results:

- `Span`: bounds in order and inside a text.
- `slice_partSpan_none`, `slice_partSpan_some`: what is cut out at a position, up to the end and for
  a length.
-/

namespace StreamPlan.Text

/-- The bounds of a part of `size` characters. -/
structure Span (size : Nat) where
  start : Nat
  stop : Nat
  start_le_stop : start ≤ stop
  stop_le_size : stop ≤ size

/-- The characters between two bounds. -/
def slice (cs : List Char) (span : Span cs.length) : List Char :=
  (cs.take span.stop).drop span.start

/-- The index that an integer is, as a word; an integer that fits none counts as zero. -/
def wordIndex (n : Int) : Nat := ((Word.uint64? n.toNat).getD 0).toNat

/-- The sum of two indices, or the largest word when the sum is beyond it. -/
def addIndex (a b : Nat) : Nat := min (a + b) 0xFFFFFFFFFFFFFFFF

/-- An index is at most the largest word. -/
theorem wordIndex_le (n : Int) : wordIndex n ≤ 0xFFFFFFFFFFFFFFFF :=
  Nat.le_of_lt_succ (UInt64.toNat_lt _)

/-- An integer from zero up to the largest word is its own index. -/
theorem wordIndex_of_le {n : Int} (h : n ≤ 0xFFFFFFFFFFFFFFFF) : wordIndex n = n.toNat := by
  have hword : n.toNat < 0x10000000000000000 := by omega
  rw [wordIndex, Word.uint64?, if_pos hword, Option.getD_some]
  exact UInt64.toNat_ofNat_of_lt' hword

/-- Where the part of a text from a position lies, of a length or up to the end of the text. -/
def partSpan (size : Nat) (position : Int) (count : Option Int) : Span size :=
  let start := min (wordIndex (max position 1 - 1)) size
  match count with
  | none => ⟨start, size, Nat.min_le_right _ _, Nat.le_refl _⟩
  | some n =>
    ⟨start, min (addIndex start (wordIndex (max n 0))) size, by
      have hword := wordIndex_le (max position 1 - 1)
      unfold addIndex
      omega, Nat.min_le_right _ _⟩

/-- The part of a text from a position, which counts from one, with an optional length. -/
def part (s : String) (position : Int) (count : Option Int) : String :=
  String.ofList (slice s.toList (partSpan s.toList.length position count))

/-! ## What is cut out -/

/-- Bounds that are kept inside a text cut out what is there of a number of characters. -/
theorem slice_of_clamped {cs : List Char} {span : Span cs.length} {skip count : Nat}
    (hstart : span.start = min skip cs.length) (hstop : span.stop = min (skip + count) cs.length) :
    slice cs span = (cs.drop skip).take count := by
  by_cases hskip : skip ≤ cs.length
  · rw [slice, List.drop_take, hstart, hstop, Nat.min_eq_left hskip, List.take_eq_take_iff,
      List.length_drop]
    omega
  · rw [slice, List.drop_eq_nil_of_le (by simp; omega), List.drop_eq_nil_of_le (by omega),
      List.take_nil]

/-- Without a length everything from the position on is cut out. -/
theorem slice_partSpan_none (cs : List Char) {position : Int}
    (hposition : position < 0x8000000000000000) :
    slice cs (partSpan cs.length position none) = cs.drop (max position 1 - 1).toNat := by
  have hstart : wordIndex (max position 1 - 1) = (max position 1 - 1).toNat :=
    wordIndex_of_le (by omega)
  have hslice : slice cs (partSpan cs.length position none) =
      (cs.drop (max position 1 - 1).toNat).take cs.length :=
    slice_of_clamped (by simp [partSpan, hstart]) (by simp [partSpan])
  rw [hslice]
  apply List.take_of_length_le
  simp

/-- With a length at most as many characters are cut out: a position and a length of sixty-three
bits never reach the largest word together. -/
theorem slice_partSpan_some (cs : List Char) {position count : Int}
    (hposition : position < 0x8000000000000000) (hcount : count < 0x8000000000000000) :
    slice cs (partSpan cs.length position (some count)) =
      (cs.drop (max position 1 - 1).toNat).take (max count 0).toNat := by
  have hstart : wordIndex (max position 1 - 1) = (max position 1 - 1).toNat :=
    wordIndex_of_le (by omega)
  have hlength : wordIndex (max count 0) = (max count 0).toNat := wordIndex_of_le (by omega)
  apply slice_of_clamped
  · simp [partSpan, hstart]
  · simp only [partSpan, addIndex, hstart, hlength]
    omega

end StreamPlan.Text
