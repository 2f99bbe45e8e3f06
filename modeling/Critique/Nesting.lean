import Critique.Layout
import Critique.Scan
import Critique.Text.Letters

/-!
# Nesting depth

Braces open and close blocks. A line that starts with a block keyword and ends in a colon opens an
indented block, which the next line that is not indented deeper closes. The depth is the largest
number of blocks open at once; a closing brace without an opening one counts for nothing.
-/

namespace Critique.Nesting

structure State where
  inComment : Bool
  braces : Nat
  /-- Indentation of the headers whose blocks are open, innermost first. -/
  blocks : List Nat
  deepest : Nat
  deriving DecidableEq

def State.start : State := ⟨false, 0, [], 0⟩

def blockKeywords : List Text :=
  ["if", "elif", "else", "for", "while", "def", "class", "try", "except", "finally", "with",
    "async"]

/-- Whether visible code, trimmed, is the header of an indented block. -/
def opensBlock (code : Text) : Bool :=
  code.getLast? == some ':' &&
    blockKeywords.contains (code.takeWhile fun c => Text.isAlphanumeric c || c == '_')

/-- Open braces and greatest depth after one more character, inside `outer` indented blocks. -/
def brace (outer : Nat) : Nat × Nat → Char → Nat × Nat
  | (braces, deepest), '{' => (braces + 1, max deepest (braces + 1 + outer))
  | (braces, deepest), '}' => (braces - 1, deepest)
  | counts, _ => counts

/-- One line whose visible code, trimmed, is `code` and not empty. -/
def State.enter (state : State) (indent : Nat) (code : Text) : State :=
  let blocks := state.blocks.dropWhile (indent ≤ ·)
  let (braces, deepest) := code.foldl (brace blocks.length) (state.braces, state.deepest)
  if opensBlock code then
    { state with braces, blocks := indent :: blocks,
                 deepest := max deepest (braces + (blocks.length + 1)) }
  else { state with braces, blocks, deepest }

def State.next (state : State) (line : Text) : State :=
  let (seen, inComment) := Scan.line state.inComment line
  let state := { state with inComment }
  let code := Text.trim seen
  if code.isEmpty then state else state.enter (Layout.indent line) code

def run (state : State) (lines : List Text) : State := lines.foldl State.next state

def depth (code : Text) : Nat := (run .start (Text.lines code)).deepest

end Critique.Nesting
