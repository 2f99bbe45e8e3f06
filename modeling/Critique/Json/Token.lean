import Critique.Text.Utf8

/-!
# JSON tokens

Splits bytes into tokens up to the end or the first fault. Strings and numbers are tokens even
where no value can hold them: a string that is no Unicode text, or a number of any size.
-/

namespace Critique.Json

open Utf8 (Bytes)

inductive Token where
  | openArray
  | closeArray
  | openObject
  | closeObject
  | comma
  | colon
  | null
  | bool (value : Bool)
  /-- A number as it is written. -/
  | number (literal : Text)
  /-- A string, or `none` where its bytes and escapes spell no text. -/
  | string (value : Option Text)
  /-- What no token starts with. Nothing follows it. -/
  | fault
  deriving DecidableEq

def isBlank (b : UInt8) : Bool := b == 0x20 || b == 0x0A || b == 0x0D || b == 0x09

def isDigit (b : UInt8) : Bool := 0x30 ≤ b && b ≤ 0x39

/-! ## Strings -/

def hexValue? (b : UInt8) : Option Nat :=
  if isDigit b then some (b.toNat - 0x30)
  else if 0x41 ≤ b && b ≤ 0x46 then some (b.toNat - 0x41 + 10)
  else if 0x61 ≤ b && b ≤ 0x66 then some (b.toNat - 0x61 + 10)
  else none

/-- The value of four hexadecimal digits and what follows them. -/
def codeUnit? : Bytes → Option (Nat × Bytes)
  | a :: b :: c :: d :: rest => do
    let high := (← hexValue? a) * 16 + (← hexValue? b)
    let low := (← hexValue? c) * 16 + (← hexValue? d)
    return (high * 256 + low, rest)
  | _ => none

def isHighSurrogate (unit : Nat) : Bool := 0xD800 ≤ unit && unit ≤ 0xDBFF

def isLowSurrogate (unit : Nat) : Bool := 0xDC00 ≤ unit && unit ≤ 0xDFFF

/-- The low surrogate of an escape, and what follows it. -/
def lowSurrogate? : Bytes → Option (Nat × Bytes)
  | 0x5C :: 0x75 :: rest => (codeUnit? rest).filter fun (unit, _) => isLowSurrogate unit
  | _ => none

/-- The character that an escape stands for, if it is a character, and what follows. A high
surrogate takes the low one after it along. -/
def unicodeEscape? (bytes : Bytes) : Option (Option Char × Bytes) := do
  let (unit, rest) ← codeUnit? bytes
  if isHighSurrogate unit then
    match lowSurrogate? rest with
    | some (low, rest) =>
      return (some (Char.ofNat (0x10000 + (unit - 0xD800) * 0x400 + (low - 0xDC00))), rest)
    | none => return (none, rest)
  else if isLowSurrogate unit then return (none, rest)
  else return (some (Char.ofNat unit), rest)

/-- What an escape of one letter stands for. -/
def plainEscape? (b : UInt8) : Option UInt8 :=
  if b == 0x22 || b == 0x5C || b == 0x2F then some b
  else if b == 0x62 then some 0x08
  else if b == 0x66 then some 0x0C
  else if b == 0x6E then some 0x0A
  else if b == 0x72 then some 0x0D
  else if b == 0x74 then some 0x09
  else none

/-- Reads a string after its opening quote. `done` holds the bytes of its value so far, last
first, and `valid` whether all escapes so far are characters. -/
def string? (fuel : Nat) (done : Bytes) (valid : Bool) (bytes : Bytes) :
    Option (Option Text × Bytes) :=
  match fuel, bytes with
  | 0, _ => none
  | _, [] => none
  | fuel + 1, b :: rest =>
    if b == 0x22 then some (if valid then Utf8.decode? done.reverse else none, rest)
    else if b == 0x5C then
      match rest with
      | [] => none
      | e :: rest =>
        if e == 0x75 then
          match unicodeEscape? rest with
          | some (some c, rest) => string? fuel ((String.utf8EncodeChar c).reverse ++ done) valid rest
          | some (none, rest) => string? fuel done false rest
          | none => none
        else
          match plainEscape? e with
          | some value => string? fuel (value :: done) valid rest
          | none => none
    else if b < 0x20 then none
    else string? fuel (b :: done) valid rest

/-! ## Numbers -/

/-- One or more digits. -/
def digits? (bytes : Bytes) : Option (Bytes × Bytes) :=
  let digits := bytes.takeWhile isDigit
  if digits.isEmpty then none else some (digits, bytes.dropWhile isDigit)

/-- A zero alone, or digits that start with another one. -/
def whole? (bytes : Bytes) : Option (Bytes × Bytes) :=
  match bytes with
  | 0x30 :: rest => if rest.head?.any isDigit then none else some ([0x30], rest)
  | _ => digits? bytes

def fraction? (bytes : Bytes) : Option (Bytes × Bytes) :=
  match bytes with
  | 0x2E :: rest => (digits? rest).map fun (digits, rest) => (0x2E :: digits, rest)
  | _ => some ([], bytes)

def exponentSign : Bytes → Bytes × Bytes
  | 0x2B :: rest => ([0x2B], rest)
  | 0x2D :: rest => ([0x2D], rest)
  | bytes => ([], bytes)

def exponent? (bytes : Bytes) : Option (Bytes × Bytes) :=
  match bytes with
  | mark :: rest =>
    if mark == 0x65 || mark == 0x45 then
      let (sign, rest) := exponentSign rest
      (digits? rest).map fun (digits, rest) => (mark :: sign ++ digits, rest)
    else some ([], bytes)
  | [] => some ([], [])

def number? (bytes : Bytes) : Option (Text × Bytes) := do
  let (sign, rest) : Bytes × Bytes := match bytes with
    | 0x2D :: rest => ([0x2D], rest)
    | _ => ([], bytes)
  let (whole, rest) ← whole? rest
  let (fraction, rest) ← fraction? rest
  let (exponent, rest) ← exponent? rest
  return ((sign ++ whole ++ fraction ++ exponent).map fun b => Char.ofNat b.toNat, rest)

/-! ## Tokens -/

def null? : Bytes → Option Bytes
  | 0x6E :: 0x75 :: 0x6C :: 0x6C :: rest => some rest
  | _ => none

def true? : Bytes → Option Bytes
  | 0x74 :: 0x72 :: 0x75 :: 0x65 :: rest => some rest
  | _ => none

def false? : Bytes → Option Bytes
  | 0x66 :: 0x61 :: 0x6C :: 0x73 :: 0x65 :: rest => some rest
  | _ => none

/-- The token that some bytes start with, and what follows it. `fuel` bounds the bytes of a
string. -/
def token? (fuel : Nat) (bytes : Bytes) : Option (Token × Bytes) :=
  match bytes with
  | [] => none
  | b :: rest =>
    if b == 0x5B then some (.openArray, rest)
    else if b == 0x5D then some (.closeArray, rest)
    else if b == 0x7B then some (.openObject, rest)
    else if b == 0x7D then some (.closeObject, rest)
    else if b == 0x2C then some (.comma, rest)
    else if b == 0x3A then some (.colon, rest)
    else if b == 0x22 then
      (string? fuel [] true rest).map fun (value, rest) => (.string value, rest)
    else if b == 0x2D || isDigit b then
      (number? bytes).map fun (literal, rest) => (.number literal, rest)
    else if b == 0x6E then (null? bytes).map (.null, ·)
    else if b == 0x74 then (true? bytes).map (.bool true, ·)
    else if b == 0x66 then (false? bytes).map (.bool false, ·)
    else none

/-- Puts the tokens of some bytes in front of `done`, last first. -/
def tokensOnto (done : List Token) : (fuel : Nat) → Bytes → List Token
  | 0, _ => done
  | fuel + 1, bytes =>
    match bytes.dropWhile isBlank with
    | [] => done
    | b :: rest =>
      match token? fuel (b :: rest) with
      | some (token, rest) => tokensOnto (token :: done) fuel rest
      | none => .fault :: done

/-- Every token takes a byte, so the number of bytes bounds what is left to read throughout. -/
def tokens (bytes : Bytes) : List Token := (tokensOnto [] (bytes.length + 1) bytes).reverse

end Critique.Json
