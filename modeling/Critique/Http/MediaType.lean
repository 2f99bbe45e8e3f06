import Critique.Text.Basic

/-!
# Media types

What the header says that tells the type of a body: a type, a subtype that may end with a suffix
after a plus, and parameters. Capitals do not matter.
-/

namespace Critique.Http

structure MediaType where
  kind : Text
  subtype : Text
  suffix : Option Text
  deriving DecidableEq, Repr

namespace MediaType

def tokenMarks : Text := "!#$%&\x27*+-.^_\x60|~"

def isToken (c : Char) : Bool := c.isAlphanum || tokenMarks.any (· == c)

/-! ## Parameters -/

inductive Place where
  /-- After a semicolon and blanks. -/
  | start
  | name
  /-- After the equals sign. -/
  | value
  | plain
  /-- After the quote that opens a value, which is not empty. -/
  | opened
  | quoted
  | closed
  deriving DecidableEq, Repr

def isQuotable (c : Char) : Bool := 31 < c.toNat && c.toNat != 127

def Place.next : Place → Char → Option Place
  | .start, c => if c = ' ' then some .start else if isToken c then some .name else none
  | .name, c => if c = '=' then some .value else if isToken c then some .name else none
  | .value, c => if c = '"' then some .opened else if isToken c then some .plain else none
  | .plain, c => if c = ';' then some .start else if isToken c then some .plain else none
  | .opened, c => if isQuotable c then some .quoted else none
  | .quoted, c => if c = '"' then some .closed else if isQuotable c then some .quoted else none
  | .closed, c => if c = ';' then some .start else if c = ' ' then some .closed else none

def Place.isEnd : Place → Bool
  | .start | .value | .plain | .closed => true
  | .name | .opened | .quoted => false

/-- Whether what follows a first semicolon is parameters. -/
def areParameters (t : Text) : Bool := (t.foldlM Place.next .start).any Place.isEnd

/-! ## Types -/

/-- A type and a subtype. The last plus that is not in front starts a suffix. -/
def ofNames (kind name : Text) : MediaType :=
  let suffix := (name.reverse.takeWhile (· != '+')).reverse
  if suffix.length + 1 < name.length then
    ⟨kind, name.take (name.length - suffix.length - 1), some suffix⟩
  else ⟨kind, name, none⟩

def parse? (t : Text) : Option MediaType :=
  let small := t.map Char.toLower
  match small.takeWhile isToken, small.dropWhile isToken with
  | c :: kind, '/' :: rest =>
    match rest.takeWhile isToken, rest.dropWhile isToken with
    | d :: name, [] => some (ofNames (c :: kind) (d :: name))
    | d :: name, ';' :: parameters =>
      if areParameters parameters then some (ofNames (c :: kind) (d :: name)) else none
    | _, _ => none
  | _, _ => none

/-- JSON itself, or a format that is built on it. -/
def isJson (type : MediaType) : Bool :=
  type.kind == "application" && (type.subtype == "json" || type.suffix == some "json")

end MediaType

/-- Whether a header value is made of visible ASCII characters and blanks. -/
def isPlainAscii (value : Text) : Bool :=
  value.all fun c => c == '\t' || (32 ≤ c.toNat && c.toNat < 127)

/-- Whether a header announces a body in JSON. -/
def announcesJson (value : Text) : Bool :=
  isPlainAscii value && (MediaType.parse? value).any MediaType.isJson

end Critique.Http
