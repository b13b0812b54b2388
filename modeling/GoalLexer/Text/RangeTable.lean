/-!
# Range tables

A set of code points given by an ascending list of disjoint closed ranges, kept
as a balanced search tree so that membership takes logarithmically many
comparisons. `RangeTable.ofList` builds the tree from the list; the recursion is
on the depth of the tree, so a table reduces in the kernel as well as it runs.
-/

set_option autoImplicit false

namespace GoalLexer

/-- A search tree of closed ranges of code points, in ascending order. -/
inductive RangeTable where
  | empty
  | node (left : RangeTable) (low high : Nat) (right : RangeTable)

namespace RangeTable

/-- Whether a code point lies in one of the ranges. -/
def contains : RangeTable → Nat → Bool
  | empty, _ => false
  | node left low high right, n =>
      if n < low then left.contains n
      else if high < n then right.contains n
      else true

/-- The tree of the first ranges of a list, as many as fit into the given depth,
and the ranges left over. -/
def build : Nat → List (Nat × Nat) → RangeTable × List (Nat × Nat)
  | 0, ranges => (empty, ranges)
  | depth + 1, ranges =>
      match build depth ranges with
      | (left, []) => (left, [])
      | (left, (low, high) :: ranges) =>
          match build depth ranges with
          | (right, ranges) => (node left low high right, ranges)

/-- The table of an ascending list of disjoint ranges. A tree of depth `d` holds
`2 ^ d - 1` ranges, so the depth chosen here leaves none over. -/
def ofList (ranges : List (Nat × Nat)) : RangeTable :=
  (build (ranges.length.log2 + 1) ranges).1

end RangeTable

end GoalLexer
