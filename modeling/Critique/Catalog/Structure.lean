import Critique.Outline
import Critique.Rule.Basic

/-!
# Rules about the structure of a submission
-/

namespace Critique.Catalog

/-- Greatest nesting depth that is not a problem. -/
def deepestNesting : Nat := 3

/-- Greatest function length, in lines, that is not a problem. -/
def longestFunction : Nat := 50

def recursion : Rule where
  id := "recursion"
  name := "Recursion"
  languages := []
  kinds := [.optimize]
  matcher := .ofText Outline.hasRecursion
  severity := .low
  dimension := .efficiency
  description := "A function calls itself"
  rationale :=
    "Naive recursion can repeat work exponentially and overflow the stack on large inputs."
  sample := some (Text.joinLines [
    "# BAD:",
    "def fib(n):",
    "    return n if n < 2 else fib(n - 1) + fib(n - 2)",
    "",
    "# GOOD:",
    "from functools import lru_cache",
    "",
    "@lru_cache(maxsize=None)",
    "def fib(n):",
    "    return n if n < 2 else fib(n - 1) + fib(n - 2)"])

def nestedLoops : Rule where
  id := "nested_loops"
  name := "Nested Loops"
  languages := []
  kinds := [.review, .optimize]
  matcher := .ofText Outline.hasNestedLoops
  severity := .medium
  dimension := .efficiency
  description := "A loop runs inside another loop"
  rationale :=
    "Nested iteration over the same data is usually O(n^2); a hash lookup often brings it back " ++
    "to O(n)."
  sample := some (Text.joinLines [
    "# BAD:",
    "for a in items:",
    "    for b in items:",
    "        if a + b == target:",
    "            return a, b",
    "",
    "# GOOD:",
    "seen = set()",
    "for a in items:",
    "    if target - a in seen:",
    "        return a, target - a",
    "    seen.add(a)"])

def deepConditionals : Rule where
  id := "deep_conditionals"
  name := "Nested Conditionals"
  languages := []
  kinds := [.optimize]
  matcher := .ofText Outline.hasNestedConditionals
  severity := .low
  dimension := .readability
  description := "Conditionals are nested inside other conditionals"
  rationale :=
    "Each nested branch multiplies the paths a reader has to follow; guard clauses flatten them."
  sample := some (Text.joinLines [
    "// BAD:",
    "if (user) \x7b",
    "  if (user.active) \x7b",
    "    send(user);",
    "  \x7d",
    "\x7d",
    "",
    "// GOOD:",
    "if (!user || !user.active) return;",
    "send(user);"])

open Pattern in
def magicNumbersPattern : Pattern :=
  inOrder [one (fun c => !(Text.isWord c || c == '.' || c == '[')), atLeast 3 Text.isDecimal,
    boundary]

def magicNumbers : Rule where
  id := "magic_numbers"
  name := "Magic Numbers"
  languages := []
  kinds := [.review, .optimize]
  matcher := .pattern magicNumbersPattern
  severity := .low
  dimension := .readability
  description := "Unnamed numeric literals are embedded in logic"
  rationale := "A named constant documents intent and keeps repeated values in sync."
  sample := some (Text.joinLines [
    "// BAD:",
    "if (elapsed > 86400) \x7b\x7d",
    "",
    "// GOOD:",
    "const SECONDS_PER_DAY = 86400;",
    "if (elapsed > SECONDS_PER_DAY) \x7b\x7d"])

def duplicatedCode : Rule where
  id := "duplicated_code"
  name := "Duplicated Code"
  languages := []
  kinds := [.review, .optimize]
  matcher := .ofText Outline.hasDuplicates
  severity := .medium
  dimension := .maintainability
  description := "The same non-trivial line appears more than once"
  rationale := "Copies drift apart over time; a fix applied to one is easily missed in the other."
  sample := none

def deepNesting : Rule where
  id := "deep_nesting"
  name := "Deep Nesting"
  languages := []
  kinds := Kind.all
  matcher := .ofMetric fun m => deepestNesting < m.maxNestingDepth
  severity := .medium
  dimension := .maintainability
  description := "Blocks are nested more than 3 levels deep"
  rationale := "Deeply nested code is hard to follow and test; extract helpers or return early."
  sample := none

def longMethod : Rule where
  id := "long_method"
  name := "Long Function"
  languages := []
  kinds := [.review, .optimize]
  matcher := .ofMetric fun m => longestFunction < m.longestFunctionLines
  severity := .medium
  dimension := .maintainability
  description := "A function spans more than 50 lines"
  rationale :=
    "Long functions usually do several things; splitting them gives each piece a name and a test."
  sample := none

def longLines : Rule where
  id := "long_lines"
  name := "Long Lines"
  languages := []
  kinds := [.review]
  matcher := .ofMetric fun m => 0 < m.longLineCount
  severity := .low
  dimension := .readability
  description := "Lines exceed 100 characters"
  rationale :=
    "Long lines force horizontal scrolling and hide the end of expressions in side-by-side diffs."
  sample := none

end Critique.Catalog
