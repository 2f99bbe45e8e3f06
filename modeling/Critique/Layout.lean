import Critique.Text.Basic

/-!
# Layout of a line

Indentation stands in for block structure, so that languages with braces and languages without
are read alike.
-/

namespace Critique.Layout

/-- Width of the blank characters that start a line, a tab counting four columns. -/
def indent (line : Text) : Nat :=
  ((line.takeWhile Text.isBlank).map fun c => if c = '\t' then 4 else 1).foldr (· + ·) 0

/-- The lines after a header of some indentation that are indented deeper than it, blank lines left
out, up to the first that is not. -/
def body (width : Nat) : (following : List Text) → List Text
  | [] => []
  | line :: rest =>
    if Text.blank line then body width rest
    else if width < indent line then line :: body width rest
    else []

end Critique.Layout
