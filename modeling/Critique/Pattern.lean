import Critique.Text.Basic
import Critique.Text.Words

/-!
# Patterns

A small language of text patterns: one character of a class, a run of such characters, a place
test, sequence and ordered choice. A run takes as many characters as it can and gives them back
one by one; a choice tries its left side first.

A pattern is searched from its end. `Pattern.sweep` takes the places of a text where a match of
the pattern may end and gives those where one starts, each with what was found at its end. It
visits each place once per node of the pattern, whatever the text.
-/

namespace Critique

/-- A place in a text: how many characters are before it, these characters, last first, and those
after it. -/
structure Place where
  index : Nat
  before : Text
  after : Text

/-- Tests of a place that consume nothing. -/
inductive Anchor where
  | textStart
  | lineStart
  | wordBoundary

def Anchor.holds : Anchor → Place → Bool
  | .textStart, place => place.before.isEmpty
  | .lineStart, place => place.before.head?.all (· == '\n')
  | .wordBoundary, place => place.before.head?.any Text.isWord != place.after.head?.any Text.isWord

/-- A place where the rest of a match starts, and what is found at its end. -/
structure Hit (α : Type) where
  place : Place
  found : α

namespace Hit

variable {α : Type}

/-- The hit one character back, if that character is of a class. -/
def back? (cls : Char → Bool) : Hit α → Option (Hit α)
  | ⟨⟨index, c :: before, after⟩, found⟩ =>
    if cls c then some ⟨⟨index - 1, before, c :: after⟩, found⟩ else none
  | ⟨⟨_, [], _⟩, _⟩ => none

/-- Puts the hits to which a run of a class leads back, this one included, before later ones. -/
def climb (cls : Char → Bool) (found : α) :
    (index : Nat) → (before after : Text) → List (Hit α) → List (Hit α)
  | index, [], after, later => ⟨⟨index, [], after⟩, found⟩ :: later
  | index, c :: before, after, later =>
    let later := ⟨⟨index, c :: before, after⟩, found⟩ :: later
    if cls c then climb cls found (index - 1) before (c :: after) later else later

/-- Adds what a hit leads back to, unless a later hit has already led back to it. -/
def spread (cls : Char → Bool) (hit : Hit α) (later : List (Hit α)) : List (Hit α) :=
  if later.head?.any (·.place.index ≤ hit.place.index) then later
  else climb cls hit.found hit.place.index hit.place.before hit.place.after later

/-- Puts a hit among others in order. Where one of them has the same place, it is left out. -/
def insert (hit : Hit α) (rest : List (Hit α) → List (Hit α)) : List (Hit α) → List (Hit α)
  | [] => hit :: rest []
  | other :: others =>
    if other.place.index < hit.place.index then other :: insert hit rest others
    else if other.place.index = hit.place.index then hit :: rest others
    else hit :: rest (other :: others)

/-- The hits of two lists in order, those of the first list going before others at their places. -/
def merge : List (Hit α) → List (Hit α) → List (Hit α)
  | [], others => others
  | hit :: hits, others => insert hit (merge hits) others

/-- Hits at all places of a text that follows `before`. -/
def everywhere (find : Place → α) : (index : Nat) → (before : Text) → Text → List (Hit α)
  | index, before, [] => [⟨⟨index, before, []⟩, find ⟨index, before, []⟩⟩]
  | index, before, c :: rest =>
    ⟨⟨index, before, c :: rest⟩, find ⟨index, before, c :: rest⟩⟩ ::
      everywhere find (index + 1) (c :: before) rest

end Hit

inductive Pattern where
  | nothing
  | one (cls : Char → Bool)
  | many (cls : Char → Bool)
  | here (anchor : Anchor)
  | seq (first second : Pattern)
  | alt (left right : Pattern)

namespace Pattern

/-- Given where matches may end, the places where they start. Both are in the order of the text. -/
def sweep {α : Type} : Pattern → List (Hit α) → List (Hit α)
  | .nothing, hits => hits
  | .one cls, hits => hits.filterMap (Hit.back? cls)
  | .many cls, hits => hits.foldr (Hit.spread cls) []
  | .here anchor, hits => hits.filter (anchor.holds ·.place)
  | .seq first second, hits => first.sweep (second.sweep hits)
  | .alt left right, hits => Hit.merge (left.sweep hits) (right.sweep hits)

/-- The places of a text where a match starts, with what is found at the place where it ends. -/
def starts {α : Type} (find : Place → α) (pattern : Pattern) (t : Text) : List (Hit α) :=
  pattern.sweep (Hit.everywhere find 0 [] t)

/-- Whether the pattern matches anywhere in the text. -/
def occursIn (pattern : Pattern) (t : Text) : Bool := !(pattern.starts (fun _ => ()) t).isEmpty

/-- Counts matches from left to right, each starting no earlier than the last one ended. Each is
told by its start and its end. -/
def countApart : (reached : Nat) → List (Nat × Nat) → Nat
  | _, [] => 0
  | reached, (start, stop) :: rest =>
    if start < reached then countApart reached rest else countApart stop rest + 1

def count (pattern : Pattern) (t : Text) : Nat :=
  countApart 0 ((pattern.starts Place.index t).map fun hit => (hit.place.index, hit.found))

/-! ## Ways to write patterns -/

def exactly (t : Text) : Pattern := t.foldr (fun c rest => seq (one (· == c)) rest) nothing

def run (cls : Char → Bool) : Pattern := seq (one cls) (many cls)

def atLeast : Nat → (Char → Bool) → Pattern
  | 0, cls => many cls
  | n + 1, cls => seq (one cls) (atLeast n cls)

def maybe (pattern : Pattern) : Pattern := alt pattern nothing

/-- The first of the patterns that leads to a match. -/
def first : List Pattern → Pattern
  | [] => one fun _ => false
  | [pattern] => pattern
  | pattern :: rest => alt pattern (first rest)

def inOrder (patterns : List Pattern) : Pattern := patterns.foldr seq nothing

def words (ws : List Text) : Pattern := first (ws.map exactly)

/-- Zero or more blank characters. -/
def gap : Pattern := many Text.isBlank

def blanks : Pattern := run Text.isBlank

def boundary : Pattern := here .wordBoundary

def isNameStart (c : Char) : Bool := c.isAlpha || c == '_' || c == '$'

def isNamePart (c : Char) : Bool := Text.isWord c || c == '$'

/-- An identifier as the curly-brace languages write it. -/
def name : Pattern := seq (one isNameStart) (many isNamePart)

end Pattern

end Critique
