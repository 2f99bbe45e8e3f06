/-!
# Text

A text is a list of characters. This module holds what every part of the program asks of one:
its blank characters, its lines, and whether one text stands inside another.
-/

namespace Critique

abbrev Text := List Char

instance : Coe String Text := ⟨String.toList⟩

namespace Text

def ofNat (n : Nat) : Text := Nat.toDigits 10 n

/-- Characters with the Unicode property White_Space. -/
def isBlank (c : Char) : Bool :=
  let n := c.toNat
  (9 ≤ n && n ≤ 13) || n == 32 || n == 0x85 || n == 0xA0 || n == 0x1680 ||
    (0x2000 ≤ n && n ≤ 0x200A) || n == 0x2028 || n == 0x2029 || n == 0x202F || n == 0x205F ||
    n == 0x3000

def trimStart (t : Text) : Text := t.dropWhile isBlank

def trimEnd (t : Text) : Text := (t.reverse.dropWhile isBlank).reverse

def trim (t : Text) : Text := trimEnd (trimStart t)

/-- Empty or made of blank characters alone. -/
def blank (t : Text) : Bool := t.all isBlank

/-- Adds a character to the first of some pieces. -/
def consPiece (c : Char) : List Text → List Text
  | [] => [[c]]
  | piece :: pieces => (c :: piece) :: pieces

/-- The pieces between separators, one more than there are separators. -/
def piecesAt (separator : Char) (t : Text) : List Text :=
  t.foldr (fun c rest => if c = separator then [] :: rest else consPiece c rest) [[]]

def pieces (t : Text) : List Text := piecesAt '\n' t

def dropCarriage (line : Text) : Text :=
  if line.getLast? = some '\r' then line.dropLast else line

/-- Lines without their terminators, a line feed or a carriage return and a line feed. What
follows the last line feed is a line if it is not empty, and keeps a carriage return. -/
def linesOfPieces : List Text → List Text
  | [] => []
  | [last] => if last.isEmpty then [] else [last]
  | piece :: next :: rest => dropCarriage piece :: linesOfPieces (next :: rest)

def lines (t : Text) : List Text := linesOfPieces (pieces t)

/-- Whether `needle` stands somewhere in the text. -/
def contains (needle : Text) : Text → Bool
  | [] => needle.isEmpty
  | c :: rest => needle.isPrefixOf (c :: rest) || contains needle rest

/-- What follows `start`, if the text starts with it. -/
def after? : (start : Text) → (t : Text) → Option Text
  | [], t => some t
  | _ :: _, [] => none
  | s :: start, c :: t => if s = c then after? start t else none

/-- The text up to `max` characters, with three dots if that leaves some out. -/
def truncate (max : Nat) (t : Text) : Text :=
  if max < t.length then t.take max ++ "...".toList else t

def line (t : Text) : Text := t ++ ['\n']

/-- Lines, each with a line feed after it. -/
def unlines (lines : List Text) : Text := lines.flatMap line

/-- Lines that show a text with a free line after it. -/
def paragraph (t : Text) : List Text := [t, []]

/-- Joins texts with a separator between each two. -/
def joinWith (separator : Text) : List Text → Text
  | [] => []
  | [t] => t
  | t :: next :: rest => t ++ separator ++ joinWith separator (next :: rest)

/-- Lines with a line feed between each two. -/
def joinLines (lines : List Text) : Text := joinWith ['\n'] lines

end Text

end Critique
