/-!
# Faults

The ways in which a caller, or a text too long for the counters, can break a
promise that an operation relies on. A fault is never the fault of malformed
source text, which yields error tokens and diagnostics instead.
-/

set_option autoImplicit false

namespace GoalLexer

inductive Fault where
  /-- A line or column would pass the greatest counter value. -/
  | counterOverflow
  /-- A byte offset would pass the greatest offset. -/
  | offsetOverflow
  /-- A span would start after its end. -/
  | reversedSpan
  /-- No character has been read that could be un-read. -/
  | nothingToUnread
  /-- A slice would start after its end or inside a character. -/
  | invalidSlice
  deriving DecidableEq, Repr

/-- Lines and columns are counted below this bound. -/
def counterBound : Nat := Nat.pow 2 32

/-- Byte offsets lie below this bound. -/
def offsetBound : Nat := Nat.pow 2 64

/-- The next value of a line or column counter. -/
def nextCount (n : Nat) : Except Fault Nat :=
  if n + 1 < counterBound then .ok (n + 1) else .error .counterOverflow

end GoalLexer
