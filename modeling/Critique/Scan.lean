import Critique.Text.Basic

/-!
# Visible code

Reads a line as code, leaving out the insides of string literals and all comments. A block comment
may run over several lines; a string literal ends with its line.
-/

namespace Critique.Scan

/-- How the next character is read. In code, `afterDot` says that the last character that was not
blank is a dot. -/
inductive Mode where
  | code (afterDot : Bool)
  | quoted (mark : Char)
  | comment
  deriving DecidableEq

def isQuote (c : Char) : Bool := c == '"' || c == '\x27' || c == '\x60'

/-- A hash starts a comment unless it opens an attribute (`#[`, `#!`) or names a private member
after a dot. -/
def hashStartsComment (afterDot : Bool) (next : Option Char) : Bool :=
  !(next == some '[' || next == some '!') && !afterDot

def directives : List Text :=
  ["define", "undef", "include", "if", "ifdef", "ifndef", "elif", "else", "endif", "pragma"]

/-- A line such as `#define M`, whose hash is no comment. -/
def isDirective (line : Text) : Bool :=
  match Text.trimStart line with
  | '#' :: rest => directives.contains ((Text.trimStart rest).takeWhile Char.isAlpha)
  | _ => false

/-- What is visible of the rest of a line, and whether a block comment is open at its end. -/
def visible (directive : Bool) : Mode → Text → Text × Bool
  | mode, [] => ([], mode = .comment)
  | .comment, '*' :: '/' :: rest => visible directive (.code false) rest
  | .comment, _ :: rest => visible directive .comment rest
  | .quoted _, ['\\'] => ([], false)
  | .quoted mark, '\\' :: _ :: rest => visible directive (.quoted mark) rest
  | .quoted mark, c :: rest =>
    if c = mark then
      let (seen, isOpen) := visible directive (.code false) rest
      (c :: seen, isOpen)
    else visible directive (.quoted mark) rest
  | .code _, '/' :: '/' :: _ => ([], false)
  | .code _, '/' :: '*' :: rest => visible directive .comment rest
  | .code afterDot, c :: rest =>
    if c = '#' && !directive && hashStartsComment afterDot rest.head? then ([], false)
    else
      let mode :=
        if isQuote c then .quoted c
        else .code (if Text.isBlank c then afterDot else c == '.')
      let (seen, isOpen) := visible directive mode rest
      (c :: seen, isOpen)

/-- Reads one line, starting inside a block comment if `inComment`. -/
def line (inComment : Bool) (l : Text) : Text × Bool :=
  visible (isDirective l) (if inComment then .comment else .code false) l

end Critique.Scan
