import Critique.Text.Basic

/-!
# Paths

A path is a text with slashes. Slashes next to one another, and dots alone between two of them,
do not count, except for a dot in front.
-/

namespace Critique.Path

def pieces (path : Text) : List Text := Text.piecesAt '/' path

def isAbsolute (path : Text) : Bool := path.head? == some '/'

/-- A path under a folder. An absolute path stands for itself. -/
def join (folder path : Text) : Text :=
  if folder.isEmpty || isAbsolute path then path
  else if folder.getLast? = some '/' then folder ++ path
  else folder ++ '/' :: path

/-- The names that a path leads through from the root, where two dots lead back. -/
def steps (path : Text) : List Text :=
  (pieces path).foldl
    (fun names piece =>
      if piece.isEmpty || piece == ['.'] then names
      else if piece == ['.', '.'] then names.dropLast
      else names ++ [piece]) []

/-! ## From the end -/

/-- Drops slashes and lone dots from the front of a path, or from its end if it is written
backwards. -/
def trim : Text → Text
  | '/' :: rest => trim rest
  | '.' :: '/' :: rest => trim rest
  | t => t

/-- The path without its last part, both written backwards; none of the root and of an empty
path. -/
def above? (backwards : Text) : Option Text :=
  let kept := trim backwards
  if kept.isEmpty then none
  else
    let above := kept.dropWhile (· != '/')
    let folder := trim above
    some (if above.isEmpty then [] else if folder.isEmpty then ['/'] else folder)

def parent? (path : Text) : Option Text := (above? path.reverse).map List.reverse

/-- The last part of a path, which may be two dots. -/
def lastPart (path : Text) : Text :=
  ((trim path.reverse).takeWhile (· != '/')).reverse

/-- What follows the last dot of a file name, unless that is its only dot and in front. -/
def extension? (path : Text) : Option Text :=
  let name := lastPart path
  if name == ['.', '.'] then none
  else
    let extension := (name.reverse.takeWhile (· != '.')).reverse
    if extension.length + 1 < name.length then some extension else none

/-! ## Order -/

inductive Part where
  | root
  | here
  | parent
  | name (letters : Text)
  deriving DecidableEq, Repr

/-- A part as numbers whose order is that of the parts. -/
def Part.rank : Part → List Nat
  | .root => [0]
  | .here => [1]
  | .parent => [2]
  | .name letters => 3 :: letters.map Char.toNat

def partOf (piece : Text) : Option Part :=
  if piece.isEmpty || piece == ['.'] then none
  else if piece == ['.', '.'] then some .parent
  else some (.name piece)

/-- What counts of a path. -/
def parts (path : Text) : List Part :=
  let rest := (pieces path).filterMap partOf
  if isAbsolute path then .root :: rest
  else if (pieces path).head? == some ['.'] then .here :: rest
  else rest

def key (path : Text) : List (List Nat) := (parts path).map Part.rank

/-- Numbers by size, and lists of them like words in a dictionary. -/
def compareRanks : List Nat → List Nat → Ordering :=
  List.compareLex fun m n => compareOfLessAndEq m n

def precedes (a b : Text) : Bool := (List.compareLex compareRanks (key a) (key b)).isLE

end Critique.Path
