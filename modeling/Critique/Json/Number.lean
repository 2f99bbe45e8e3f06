import Critique.Number.Decimal

/-!
# Range of JSON numbers

A number with a point, an exponent or more than 64 bits is read in double precision. Its digits
go into a 64-bit significand as long as they fit; of the others those before the point count as
zeros and those after it are dropped. The reader refuses what this makes larger than any double
precision number.
-/

namespace Critique.Json.Number

open Decimal (isDigit)

structure Parts where
  whole : Text
  fraction : Text
  exponent : Int

def signedValue : Text → Int
  | '-' :: digits => -(Decimal.exponentOf digits : Int)
  | '+' :: digits => Decimal.exponentOf digits
  | digits => Decimal.exponentOf digits

def unsigned (literal : Text) : Text := (Text.after? ['-'] literal).getD literal

def parts (literal : Text) : Parts :=
  let mantissa := (unsigned literal).takeWhile fun c => c != 'e' && c != 'E'
  { whole := mantissa.takeWhile isDigit
    fraction := (mantissa.dropWhile isDigit).drop 1
    exponent := signedValue ((unsigned literal).drop (mantissa.length + 1)) }

def capacity : Nat := Nat.pow 2 64

/-- Takes digits into a significand as long as they fit, and counts those it took. -/
def absorb (significand taken : Nat) : Text → Nat × Nat
  | [] => (significand, taken)
  | c :: digits =>
    let more := Decimal.appendDigits significand [c]
    if more < capacity then absorb more (taken + 1) digits else (significand, taken)

/-- What the significand and the exponent of a numeral become. -/
def absorbed (p : Parts) : Decimal :=
  let (significand, taken) := absorb 0 0 p.whole
  let (significand, places) := absorb significand 0 p.fraction
  ⟨significand, p.exponent + (p.whole.length - taken : Nat) - (places : Nat)⟩

/-- Exponents from here on are out of range, whatever the significand. -/
def exponentBound : Int := 309

/-- Whether the product of the significand and the power of ten, each in double precision, lies in
range. -/
def productFits (significand exponent : Nat) : Bool :=
  match Binary.round .double significand 1, Binary.round .double (Nat.pow 10 exponent) 1 with
  | some a, some b =>
    let (n, d) := a.fraction
    let (m, e) := b.fraction
    n * m < (Nat.pow 2 1024 - Nat.pow 2 970) * (d * e)
  | _, _ => false

def inRange (literal : Text) : Bool :=
  let d := absorbed (parts literal)
  d.digits = 0 || d.exponent < 0 ||
    (d.exponent < exponentBound && productFits d.digits d.exponent.toNat)

/-- The natural number that a numeral without sign, point and exponent stands for. -/
def nat? (literal : Text) : Option Nat :=
  if !literal.isEmpty && literal.all isDigit then some (Decimal.ofDigits literal) else none

end Critique.Json.Number
