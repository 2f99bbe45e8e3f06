import Critique.Layout
import Critique.Pattern
import Critique.Text.Letters

/-!
# Outline of a submission

What indentation tells about a submission: functions that call themselves, headers inside the body
of a like header, and lines that are written twice.
-/

namespace Critique.Outline

/-- Whether some line stands in `relation` to the lines that follow it. -/
def someLine (relation : Text → List Text → Bool) : List Text → Bool
  | [] => false
  | line :: following => relation line following || someLine relation following

/-- Whether some line in the body of a header has a property. -/
def bodyHas (property : Text → Bool) (line : Text) (following : List Text) : Bool :=
  (Layout.body (Layout.indent line) following).any property

/-! ## Recursion -/

open Pattern in
/-- A definition up to the blanks in front of the name. -/
def definitionStart : Pattern :=
  inOrder [boundary, words ["def", "function", "fn", "func"], blanks]

open Pattern in
/-- The name and the parenthesis that opens its parameters. -/
def definitionName : Pattern := inOrder [name, gap, exactly "("]

/-- The name at a place, and what was found behind its parenthesis. -/
def named (hit : Hit Text) : Hit (Text × Text) :=
  ⟨hit.place, hit.place.after.takeWhile Pattern.isNamePart, hit.found⟩

/-- The name of the first function that a line defines, and what follows its parenthesis. -/
def definition? (line : Text) : Option (Text × Text) :=
  let names := (definitionName.starts Place.after line).map named
  (definitionStart.sweep names).head?.map (·.found)

def continuesName (c : Char) : Bool := Text.isAlphanumeric c || c == '_' || c == '$' || c == '.'

/-- Whether a name with these surroundings is called. -/
def isCall (before : Option Char) (following : Text) : Bool :=
  !before.any continuesName &&
    (following.dropWhile fun c => c == ' ' || c == '\t').head? == some '('

/-- Looks for a call among the occurrences of a name, each starting no earlier than the last one
ended. `skip` is the number of characters still inside the last one. -/
def callsAfter (name : Text) : (skip : Nat) → (before : Option Char) → Text → Bool
  | _, _, [] => false
  | skip + 1, _, c :: rest => callsAfter name skip (some c) rest
  | 0, before, c :: rest =>
    match Text.after? name (c :: rest) with
    | some following =>
      isCall before following || callsAfter name (name.length - 1) (some c) rest
    | none => callsAfter name 0 (some c) rest

def calls (name t : Text) : Bool := callsAfter name 0 none t

/-- Whether a function defined on a line is called on the rest of that line or in its body. -/
def callsItself (line : Text) (following : List Text) : Bool :=
  match definition? line with
  | some (name, rest) => calls name rest || bodyHas (calls name) line following
  | none => false

def hasRecursion (code : Text) : Bool := someLine callsItself (Text.lines code)

/-! ## Nested headers -/

open Pattern in
def loopHeader : Pattern :=
  inOrder [here .textStart, gap, words ["for", "while"], boundary]

open Pattern in
def conditionalHeader : Pattern :=
  inOrder [here .textStart, gap, maybe (seq (exactly "\x7d") gap),
    first [exactly "if", exactly "elif", inOrder [exactly "else", blanks, exactly "if"]], boundary]

/-- Whether a header has another one in its body. -/
def holdsAnother (header : Pattern) (line : Text) (following : List Text) : Bool :=
  header.occursIn line && bodyHas header.occursIn line following

def hasNested (header : Pattern) (code : Text) : Bool :=
  someLine (holdsAnother header) (Text.lines code)

def hasNestedLoops : Text → Bool := hasNested loopHeader

def hasNestedConditionals : Text → Bool := hasNested conditionalHeader

/-! ## Duplicated lines -/

/-- Shorter lines may well be written twice. -/
def shortestDuplicate : Nat := 20

def hasRepeat : List Text → Bool
  | [] => false
  | line :: rest => rest.contains line || hasRepeat rest

def hasDuplicates (code : Text) : Bool :=
  hasRepeat (((Text.lines code).map Text.trim).filter (shortestDuplicate ≤ ·.length))

end Critique.Outline
