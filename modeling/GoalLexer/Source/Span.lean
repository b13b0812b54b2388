import GoalLexer.Fault

/-!
# Spans and positions

A span is a range of bytes together with the line and column of its start; a
position is the start alone, in a named source. Lines count from one, columns
from zero in code points.
-/

set_option autoImplicit false

namespace GoalLexer

/-- The bytes from `start` up to `stop`, whose first stands at `line` and
`column`. -/
structure Span where
  start : Nat
  stop : Nat
  line : Nat
  column : Nat
  start_le_stop : start ≤ stop
  deriving DecidableEq

namespace Span

/-- The span that stands for no place in particular. -/
def nowhere : Span := ⟨0, 0, 0, 0, Nat.le_refl 0⟩

instance : Inhabited Span := ⟨nowhere⟩

/-- A span from `start` to `stop`, which must not be reversed. -/
def between (start stop line column : Nat) : Except Fault Span :=
  if h : start ≤ stop then .ok ⟨start, stop, line, column, h⟩ else .error .reversedSpan

/-- The empty span at one offset. -/
def point (offset line column : Nat) : Span :=
  ⟨offset, offset, line, column, Nat.le_refl offset⟩

/-- The number of bytes covered. -/
def size (s : Span) : Nat := s.stop - s.start

def isEmpty (s : Span) : Bool := s.start == s.stop

def contains (s : Span) (offset : Nat) : Bool :=
  s.start ≤ offset && offset < s.stop

end Span

/-- A place in a named source. -/
structure Position where
  source : String
  offset : Nat
  line : Nat
  column : Nat
  deriving DecidableEq, Repr

namespace Position

/-- The span of `size` bytes from here on. -/
def span (p : Position) (size : Nat) : Except Fault Span :=
  if p.offset + size < offsetBound then
    .ok ⟨p.offset, p.offset + size, p.line, p.column, Nat.le_add_right _ _⟩
  else .error .offsetOverflow

/-- Source, line and column, divided by colons. -/
def describe (p : Position) : String :=
  p.source ++ ":" ++ toString p.line ++ ":" ++ toString p.column

end Position

end GoalLexer
