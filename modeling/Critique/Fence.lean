import Critique.Text.Basic

/-!
# Code fences

A fence of backticks that is longer than any run of them in the code between.
-/

namespace Critique.Fence

def backtick : Char := '\x60'

/-- The run of backticks that ends here and the longest one so far, after one more character. -/
def count : Nat × Nat → Char → Nat × Nat
  | (run, longest), c => if c = backtick then (run + 1, max longest (run + 1)) else (0, longest)

def longestRun (t : Text) : Nat := (t.foldl count (0, 0)).2

def shortest : Nat := 3

def around (code : Text) : Text := List.replicate (max (longestRun code + 1) shortest) backtick

def closed (code : Text) : Text := if code.getLast? = some '\n' then code else Text.line code

/-- A block of code, tagged with its language. -/
def block (language code : Text) : Text :=
  around code ++ Text.line language ++ closed code ++ around code

end Critique.Fence
