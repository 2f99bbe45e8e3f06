import Critique.Number.Decimal

/-!
# Single precision numbers

Settings of text generation are single precision numbers. Written out they have a point, and an
exponent only far from one.
-/

namespace Critique

inductive Single where
  | finite (negative : Bool) (magnitude : Binary)
  | infinite (negative : Bool)
  | nan
  deriving DecidableEq, Repr

namespace Single

/-- The nearest number to the fraction `n / d`. -/
def ofFraction (negative : Bool) (n d : Nat) : Single :=
  match Binary.round .single n d with
  | some magnitude => .finite negative magnitude
  | none => .infinite negative

def ofInt (n : Int) : Single := ofFraction (n < 0) n.natAbs 1

/-- Rounds a decimal number to double precision and then to single precision. -/
def ofDecimal (negative : Bool) (d : Decimal) : Single :=
  match d.toDouble? with
  | some b => ofFraction negative b.fraction.1 b.fraction.2
  | none => .infinite negative

/-! ## Numerals -/

/-- From ten to this power on an exponent is written. -/
def positionalEnd : Int := 15

/-- Below ten to this power an exponent is written. -/
def positionalStart : Int := -6

/-- Digits with a point after the first `order` of them. -/
def positional (digits : Text) (order : Int) : Text :=
  match order with
  | .ofNat before =>
    if before = 0 then '0' :: '.' :: digits
    else if digits.length ≤ before then
      digits ++ List.replicate (before - digits.length) '0' ++ ['.', '0']
    else digits.take before ++ '.' :: digits.drop before
  | .negSucc zeros => '0' :: '.' :: List.replicate (zeros + 1) '0' ++ digits

def exponentText (e : Int) : Text := (if e < 0 then '-' else '+') :: Text.ofNat e.natAbs

/-- Digits with a point after the first one, if there are more, and an exponent. -/
def scientific (digits : Text) (order : Int) : Text :=
  let exponent := 'e' :: exponentText (order - 1)
  match digits with
  | first :: second :: rest => first :: '.' :: second :: rest ++ exponent
  | _ => digits ++ exponent

def decimalText (d : Decimal) : Text :=
  let digits := Text.ofNat d.digits
  if positionalStart < d.order && d.order ≤ positionalEnd then positional digits d.order
  else scientific digits d.order

/-- A negative number has its sign, zero included. -/
def signed (negative : Bool) (numeral : Text) : Text := if negative then '-' :: numeral else numeral

def numeral? : Single → Option Text
  | .finite negative magnitude =>
    some (signed negative
      (if magnitude.significand = 0 then "0.0" else decimalText (.shortest .single magnitude)))
  | _ => none

end Single

end Critique
