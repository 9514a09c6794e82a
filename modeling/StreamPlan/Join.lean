/-!
# Joins

The kinds of joins and the time bounds of a join of two streams.

Main results:

- `JoinWindow.symmetric`: equal bounds on both sides.
- `Duration.ofMillis`, `Duration.toMillis`: spans of time in milliseconds.
-/

namespace StreamPlan

/-- Which records a join keeps when one side has no partner. -/
inductive JoinKind where
  | inner
  | left
  | outer
deriving DecidableEq, Repr

/-- The word of a join kind. -/
def JoinKind.text : JoinKind → String
  | .inner => "INNER"
  | .left => "LEFT"
  | .outer => "OUTER"

/-- A length of time in seconds and nanoseconds. -/
structure Duration where
  seconds : UInt64
  nanos : Fin 1000000000
deriving DecidableEq, Repr

/-- A length of whole milliseconds. -/
def Duration.ofMillis (millis : Nat) : Duration :=
  ⟨UInt64.ofNat (millis / 1000), ⟨millis % 1000 * 1000000, by omega⟩⟩

/-- The whole milliseconds of a length of time. -/
def Duration.toMillis (d : Duration) : Nat := d.seconds.toNat * 1000 + d.nanos.val / 1000000

/-- The bounds of a join of two streams: a right record joins a left one when its
time lies between `before` ahead of it and `after` behind it. -/
structure JoinWindow where
  before : Duration
  after : Duration
deriving DecidableEq, Repr

/-- Equal bounds on both sides. -/
def JoinWindow.symmetric (size : Duration) : JoinWindow := ⟨size, size⟩

end StreamPlan
