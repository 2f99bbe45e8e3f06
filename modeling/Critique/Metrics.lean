import Critique.Nesting
import Critique.Pattern

/-!
# Metrics of a submission

Counters of size and shape. Nothing here parses a language: any text has metrics.
-/

namespace Critique

structure Metrics where
  lineCount : Nat
  charCount : Nat
  functionCount : Nat
  classCount : Nat
  maxNestingDepth : Nat
  longLineCount : Nat
  /-- Lines of the longest function, from its declaration to the next one or the end. -/
  longestFunctionLines : Nat
  deriving DecidableEq, Repr

namespace Metrics

open Pattern in
/-- A keyword and a name, or an arrow function assigned to a name. -/
def declaration : Pattern :=
  alt
    (inOrder [boundary, words ["def", "function", "fn", "func"], blanks, name])
    (inOrder [boundary, name, gap, exactly "=", gap, maybe (seq (exactly "async") gap),
      exactly "(", many (fun c => c != ')' && c != '\n'), exactly ")", gap, exactly "=>"])

open Pattern in
def typeDeclaration : Pattern :=
  inOrder [boundary, words ["class", "struct", "interface"], blanks,
    one (fun c => c.isAlpha || c == '_'), many Text.isWord]

def isDeclaration (line : Text) : Bool := declaration.occursIn line

/-- Lines up to the next declaration line, and the longest span that starts at one. -/
def spans (declares : List Bool) : Nat × Nat :=
  declares.foldr
    (fun starts (length, longest) =>
      if starts then (0, max longest (length + 1)) else (length + 1, longest)) (0, 0)

def longestFunction (code : Text) : Nat := (spans ((Text.lines code).map isDeclaration)).2

/-- Line feeds and one more, or none in an empty text. -/
def countLines (code : Text) : Nat := if code.isEmpty then 0 else (Text.pieces code).length

/-- Lines longer than this count as long. -/
def longLine : Nat := 100

def ofCode (code : Text) : Metrics where
  lineCount := countLines code
  charCount := code.length
  functionCount := declaration.count code
  classCount := typeDeclaration.count code
  maxNestingDepth := Nesting.depth code
  longLineCount := ((Text.lines code).filter (longLine < ·.length)).length
  longestFunctionLines := longestFunction code

end Metrics

end Critique
