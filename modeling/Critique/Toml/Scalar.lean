import Critique.Toml.Value

/-!
# TOML scalars

Strings, numbers and moments. Every reader takes what it reads from the front of a text and gives
the rest.
-/

namespace Critique.Toml

/-! ## Characters and lines -/

def isBlank (c : Char) : Bool := c == ' ' || c == '\t'

def isDigit (c : Char) : Bool := '0' ≤ c && c ≤ '9'

/-- Characters that may stand in comments and strings: none that control the device. -/
def isVisible (c : Char) : Bool := c == '\t' || (0x20 ≤ c.toNat && c.toNat != 0x7F)

def skipBlanks (t : Text) : Text := t.dropWhile isBlank

def newline? : Text → Option Text
  | '\n' :: rest => some rest
  | '\r' :: '\n' :: rest => some rest
  | _ => none

/-! ## Strings -/

def hexValue? (c : Char) : Option Nat :=
  if isDigit c then some (c.toNat - '0'.toNat)
  else if 'A' ≤ c && c ≤ 'F' then some (c.toNat - 'A'.toNat + 10)
  else if 'a' ≤ c && c ≤ 'f' then some (c.toNat - 'a'.toNat + 10)
  else none

/-- The value of a run of digits of a base. -/
def digitsValue? (base : Nat) (digits : Text) : Option Nat :=
  digits.foldlM (fun n c => ((hexValue? c).filter (· < base)).map (n * base + ·)) 0

/-- The character with a code point of `n` hexadecimal digits. -/
def scalar? (n : Nat) (t : Text) : Option Char := do
  let digits := t.take n
  if digits.length = n then
    let code ← digitsValue? 16 digits
    if code.isValidChar then return Char.ofNat code else none
  else none

/-- The character of an escape, read behind its backslash, and how many characters spell it. -/
def escape? : Text → Option (Char × Nat)
  | 'b' :: _ => some ('\x08', 1)
  | 't' :: _ => some ('\t', 1)
  | 'n' :: _ => some ('\n', 1)
  | 'f' :: _ => some ('\x0c', 1)
  | 'r' :: _ => some ('\r', 1)
  | '"' :: _ => some ('"', 1)
  | '\\' :: _ => some ('\\', 1)
  | 'u' :: rest => (scalar? 4 rest).map (·, 5)
  | 'U' :: rest => (scalar? 8 rest).map (·, 9)
  | _ => none

def prepend (c : Char) (read : Text × Text) : Text × Text := (c :: read.1, read.2)

/-- A string on one line with escapes, read behind its quote. `skip` is the number of characters
still inside an escape. -/
def basic : (skip : Nat) → Text → Option (Text × Text)
  | _, [] => none
  | skip + 1, _ :: rest => basic skip rest
  | 0, c :: rest =>
    if c = '"' then some ([], rest)
    else if c = '\\' then do
      let (e, spelled) ← escape? rest
      return prepend e (← basic spelled rest)
    else if isVisible c then (basic 0 rest).map (prepend c)
    else none

/-- A string on one line without escapes, read behind its quote. -/
def literal : Text → Option (Text × Text)
  | [] => none
  | c :: rest =>
    if c = '\x27' then some ([], rest)
    else if isVisible c then (literal rest).map (prepend c)
    else none

/-- At the three quotes that end a string of several lines: up to two more in front of them belong
to the string. -/
def closing? (quote : Char) (t : Text) : Option (Text × Text) :=
  let quotes := (t.takeWhile (· == quote)).length
  if quotes < 3 then none
  else
    let extra := min (quotes - 3) 2
    some (List.replicate extra quote, t.drop (extra + 3))

/-- Whether nothing but blanks stands before the end of the line. -/
def endsLine (t : Text) : Bool := (newline? (skipBlanks t)).isSome

/-- A string of several lines with escapes, read behind its quotes. A backslash that ends its line
folds the string: it goes on after all blanks and empty lines. -/
def longBasic : (folded : Bool) → (skip : Nat) → Text → Option (Text × Text)
  | _, _, [] => none
  | folded, skip + 1, _ :: rest => longBasic folded skip rest
  | folded, 0, '\r' :: '\n' :: rest =>
    if folded then longBasic true 0 rest else (longBasic false 0 rest).map (prepend '\n')
  | folded, 0, c :: rest =>
    if folded && (isBlank c || c == '\n') then longBasic true 0 rest
    else if c = '\\' then
      if endsLine rest then longBasic true 0 rest
      else do
        let (e, spelled) ← escape? rest
        return prepend e (← longBasic false spelled rest)
    else match closing? '"' (c :: rest) with
      | some read => some read
      | none =>
        if c = '\n' || isVisible c then (longBasic false 0 rest).map (prepend c) else none

/-- A string of several lines without escapes, read behind its quotes. -/
def longLiteral : Text → Option (Text × Text)
  | [] => none
  | '\r' :: '\n' :: rest => (longLiteral rest).map (prepend '\n')
  | c :: rest =>
    match closing? '\x27' (c :: rest) with
    | some read => some read
    | none => if c = '\n' || isVisible c then (longLiteral rest).map (prepend c) else none

/-- A line end right behind the opening quotes does not count. -/
def dropNewline (t : Text) : Text := (newline? t).getD t

def string? (t : Text) : Option (Text × Text) :=
  match t with
  | '"' :: '"' :: '"' :: rest => longBasic false 0 (dropNewline rest)
  | '"' :: rest => basic 0 rest
  | '\x27' :: '\x27' :: '\x27' :: rest => longLiteral (dropNewline rest)
  | '\x27' :: rest => literal rest
  | _ => none

/-! ## Numbers -/

/-- The rest of a run of digits. An underscore stands between two digits. -/
def moreDigits (isDigit : Char → Bool) : Text → Option (Text × Text)
  | [] => some ([], [])
  | c :: rest =>
    if isDigit c then (moreDigits isDigit rest).map (prepend c)
    else if c = '_' then
      match rest with
      | d :: rest => if isDigit d then (moreDigits isDigit rest).map (prepend d) else none
      | [] => none
    else some ([], c :: rest)

def digits? (isDigit : Char → Bool) : Text → Option (Text × Text)
  | c :: rest => if isDigit c then (moreDigits isDigit rest).map (prepend c) else none
  | [] => none

/-- Whether a number has a minus, and what follows its sign. -/
def sign : Text → Bool × Text
  | '-' :: rest => (true, rest)
  | '+' :: rest => (false, rest)
  | t => (false, t)

/-- A zero alone, or digits that start with another one. -/
def whole? : Text → Option (Text × Text)
  | '0' :: rest => some (['0'], rest)
  | t => digits? isDigit t

def fraction? : Text → Option (Text × Text)
  | '.' :: rest => digits? isDigit rest
  | t => some ([], t)

/-- An exponent, zero if there is none, and whether there is one. -/
def exponent? : Text → Option (Int × Bool × Text)
  | c :: rest =>
    if c = 'e' || c = 'E' then do
      let (negative, rest) := sign rest
      let (digits, rest) ← digits? isDigit rest
      let value : Int := Decimal.exponentOf digits
      return (if negative then -value else value, true, rest)
    else some (0, false, c :: rest)
  | [] => some (0, false, [])

/-- The magnitude that only a negative integer has: integers have 64 bits with their sign. -/
def largest : Nat := Nat.pow 2 63

/-- The value of a run of digits of a base, if it is no larger than an integer can be. -/
def magnitude? (base : Nat) (digits : Text) : Option Nat :=
  digits.foldlM
    (fun n c => do
      let more := n * base + (← (hexValue? c).filter (· < base))
      if more ≤ largest then some more else none) 0

def integer? (negative : Bool) (base : Nat) (digits : Text) : Option Value := do
  let magnitude ← magnitude? base digits
  if negative then return .integer (-magnitude)
  else if magnitude < largest then return .integer magnitude
  else none

/-- A negative number may be too large for double precision, a positive one not. -/
def realOf (negative : Bool) (magnitude : Decimal) : Option Value :=
  match magnitude.toDouble?, negative with
  | none, true => some (.real (.infinite true))
  | none, false => none
  | some _, _ => some (.real (.finite negative magnitude))

def special? (negative : Bool) : Text → Option (Value × Text)
  | 'i' :: 'n' :: 'f' :: rest => some (.real (.infinite negative), rest)
  | 'n' :: 'a' :: 'n' :: rest => some (.real .nan, rest)
  | _ => none

/-- An integer in another base, read behind its mark. -/
def based? (base : Nat) (t : Text) : Option (Value × Text) := do
  let (digits, rest) ← digits? (fun c => (hexValue? c).any (· < base)) t
  return (← integer? false base digits, rest)

def decimal? (t : Text) : Option (Value × Text) := do
  let (negative, unsigned) := sign t
  match special? negative unsigned with
  | some read => return read
  | none =>
    let (whole, rest) ← whole? unsigned
    let (fraction, rest) ← fraction? rest
    let (exponent, hasExponent, rest) ← exponent? rest
    if hasExponent || !fraction.isEmpty then
      return (← realOf negative (.ofParts whole fraction exponent), rest)
    else return (← integer? negative 10 whole, rest)

/-! ## Moments -/

/-- A number of `n` digits within bounds. -/
def bounded? (n low high : Nat) (t : Text) : Option (Nat × Text) :=
  let digits := t.take n
  if digits.length = n && digits.all isDigit then
    let value := Decimal.ofDigits digits
    if low ≤ value && value ≤ high then some (value, t.drop n) else none
  else none

def expect? (c : Char) : Text → Option Text
  | d :: rest => if c = d then some rest else none
  | [] => none

def isLeapYear (year : Nat) : Bool := year % 4 == 0 && (year % 100 != 0 || year % 400 == 0)

def daysIn (year month : Nat) : Nat :=
  if month = 2 then if isLeapYear year then 29 else 28
  else if [4, 6, 9, 11].contains month then 30
  else 31

def date? (t : Text) : Option Text := do
  let (year, rest) ← bounded? 4 0 9999 t
  let (month, rest) ← bounded? 2 1 12 (← expect? '-' rest)
  let (_, rest) ← bounded? 2 1 (daysIn year month) (← expect? '-' rest)
  return rest

/-- Parts of a second, if there are any. -/
def skipFraction : Text → Text
  | '.' :: d :: rest => if isDigit d then rest.dropWhile isDigit else '.' :: d :: rest
  | t => t

def time? (t : Text) : Option Text := do
  let (_, rest) ← bounded? 2 0 23 t
  let (_, rest) ← bounded? 2 0 59 (← expect? ':' rest)
  let (_, rest) ← bounded? 2 0 60 (← expect? ':' rest)
  return skipFraction rest

/-- The distance from universal time, if it is told. -/
def offset? : Text → Option Text
  | c :: rest =>
    if c = 'Z' || c = 'z' then some rest
    else if c = '+' || c = '-' then do
      let (_, rest) ← bounded? 2 0 23 rest
      let (_, rest) ← bounded? 2 0 59 (← expect? ':' rest)
      return rest
    else some (c :: rest)
  | [] => some []

/-- Whether a text starts with a number of digits and then a mark. -/
def startsWith (digits : Nat) (mark : Char) (t : Text) : Bool :=
  (t.take digits).length = digits && (t.take digits).all isDigit &&
    (t.drop digits).head? == some mark

def timeAfter? : Text → Option Text
  | c :: rest =>
    if (c = 'T' || c = 't' || c = ' ') && startsWith 2 ':' rest then do offset? (← time? rest)
    else some (c :: rest)
  | [] => some []

/-! ## Scalars -/

def number? (t : Text) : Option (Value × Text) :=
  if startsWith 4 '-' t then do return (.moment, ← timeAfter? (← date? t))
  else if startsWith 2 ':' t then do return (.moment, ← time? t)
  else match t with
    | '0' :: 'x' :: rest => based? 16 rest
    | '0' :: 'o' :: rest => based? 8 rest
    | '0' :: 'b' :: rest => based? 2 rest
    | _ => decimal? t

def boolean? : Text → Option (Value × Text)
  | 't' :: 'r' :: 'u' :: 'e' :: rest => some (.boolean true, rest)
  | 'f' :: 'a' :: 'l' :: 's' :: 'e' :: rest => some (.boolean false, rest)
  | _ => none

def scalar (t : Text) : Option (Value × Text) :=
  match t with
  | [] => none
  | c :: _ =>
    if c = '"' || c = '\x27' then (string? t).map fun (value, rest) => (.text value, rest)
    else if c = 't' || c = 'f' then boolean? t
    else number? t

end Critique.Toml
