import Critique.Text.Basic

/-!
# Ranges of code points

Ranges in ascending order, kept as a search tree.
-/

namespace Critique.Text

inductive Ranges where
  | empty
  | node (below : Ranges) (low high : Nat) (above : Ranges)

namespace Ranges

def holds (n : Nat) : Ranges → Bool
  | .empty => false
  | .node below low high above =>
    if n < low then below.holds n else if high < n then above.holds n else true

/-- The tree of some ranges in ascending order, at most `depth` nodes deep. -/
def build : (depth : Nat) → List (Nat × Nat) → Ranges
  | 0, _ => .empty
  | depth + 1, ranges =>
    let half := ranges.length / 2
    match ranges.drop half with
    | [] => .empty
    | (low, high) :: above => .node (build depth (ranges.take half)) low high (build depth above)

/-- The tree of some ranges in ascending order. -/
def ofList (ranges : List (Nat × Nat)) : Ranges := build ranges.length ranges

end Ranges

end Critique.Text
