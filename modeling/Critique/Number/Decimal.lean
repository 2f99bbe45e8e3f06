import Critique.Number.Binary

/-!
# Decimal numbers

Decimal numerals of any size, the binary number nearest to one, and the shortest one that is
nearest to a binary number.
-/

namespace Critique

/-- The magnitude `digits * 10 ^ exponent`. -/
structure Decimal where
  digits : Nat
  exponent : Int
  deriving DecidableEq, Repr

namespace Decimal

def isDigit (c : Char) : Bool := '0' ≤ c && c ≤ '9'

/-- Appends digits to a number. -/
def appendDigits (n : Nat) (digits : Text) : Nat :=
  digits.foldl (fun n c => n * 10 + (c.toNat - '0'.toNat)) n

/-- The value of a run of digits. -/
def ofDigits (digits : Text) : Nat := appendDigits 0 digits

/-- The value of a run of digits, if it is below a bound. -/
def below? (bound : Nat) (digits : Text) : Option Nat :=
  digits.foldlM
    (fun n c =>
      let more := appendDigits n [c]
      if more < bound then some more else none) 0

/-- No text is long enough for exponents beyond this one to differ. -/
def largestExponent : Nat := Nat.pow 10 18

/-- The value of the digits of an exponent. -/
def exponentOf (digits : Text) : Nat :=
  digits.foldl (fun n c => min largestExponent (n * 10 + (c.toNat - '0'.toNat))) 0

/-- Neither a number of double precision nor the middle between two has more digits. -/
def mostDigits : Nat := 800

/-- Digits to round by: of those past the limit it only matters whether one is not zero. -/
def roundable (digits : Text) : Text :=
  if digits.length ≤ mostDigits then digits
  else digits.take mostDigits ++ [if (digits.drop mostDigits).all (· == '0') then '0' else '1']

/-- The number that starts with `whole` before the point and goes on with `fraction` after it, as
far as it matters for rounding. -/
def ofParts (whole fraction : Text) (exponent : Int) : Decimal :=
  let digits := (whole ++ fraction).dropWhile (· == '0')
  let kept := roundable digits
  ⟨ofDigits kept, exponent - fraction.length + (digits.length - kept.length : Nat)⟩

/-- Number of digits before the point, negative for zeros after it. -/
def order (d : Decimal) : Int := (Nat.toDigits 10 d.digits).length + d.exponent

def fraction (d : Decimal) : Nat × Nat :=
  match d.exponent with
  | .ofNat e => (d.digits * Nat.pow 10 e, 1)
  | .negSucc e => (d.digits, Nat.pow 10 (e + 1))

/-- Every number of this order or more is out of the bounds of double precision. -/
def overflowOrder : Int := 310

/-- Every number of this order or less is nearest to zero. -/
def underflowOrder : Int := -330

/-- The double precision number nearest to a decimal one, unless it lies out of bounds. -/
def toDouble? (d : Decimal) : Option Binary :=
  if d.digits = 0 || d.order ≤ underflowOrder then some ⟨0, Binary.Layout.double.least⟩
  else if overflowOrder ≤ d.order then none
  else
    let (n, m) := d.fraction
    Binary.round .double n m

/-! ## Shortest numerals -/

/-- The numbers that round to a given one lie between two bounds. All three are counted in
quarters of its last place; the bounds themselves belong to it if it is even. -/
structure Interval where
  low : Nat
  value : Nat
  high : Nat
  closed : Bool

def Interval.of (layout : Binary.Layout) (b : Binary) : Interval :=
  let m := b.significand
  let lowest := m = Nat.pow 2 (layout.precision - 1) && layout.least < b.exponent
  ⟨4 * m - if lowest then 1 else 2, 4 * m, 4 * m + 2, m % 2 = 0⟩

/-- Multiplies by a fraction to compare `digits * 10 ^ grid` with quarters of the last place. -/
structure Scale where
  /-- Factor of the digits. -/
  digits : Nat
  /-- Factor of the quarters. -/
  quarters : Nat

def Scale.of (exponent grid : Int) : Scale :=
  let (up, down) : Nat × Nat := match exponent - 2 with
    | .ofNat e => (Nat.pow 2 e, 1)
    | .negSucc e => (1, Nat.pow 2 (e + 1))
  match grid with
  | .ofNat g => ⟨Nat.pow 10 g * down, up⟩
  | .negSucc g => ⟨down, up * Nat.pow 10 (g + 1)⟩

def Interval.holds (interval : Interval) (scale : Scale) (digits : Nat) : Bool :=
  let x := digits * scale.digits
  let low := interval.low * scale.quarters
  let high := interval.high * scale.quarters
  if interval.closed then low ≤ x && x ≤ high else low < x && x < high

/-- The multiple of a power of ten nearest to the value, of those inside the interval. -/
def Interval.nearest? (interval : Interval) (scale : Scale) : Option Nat :=
  let value := interval.value * scale.quarters
  let below := value / scale.digits
  let nearest := Binary.roundDiv value scale.digits
  if interval.holds scale nearest then some nearest
  else ([below, below + 1].filter (interval.holds scale)).head?

/-- Tries finer and finer powers of ten. -/
def Interval.search (interval : Interval) (exponent : Int) : (fuel : Nat) → (grid : Int) → Decimal
  | 0, grid => ⟨0, grid⟩
  | fuel + 1, grid =>
    match interval.nearest? (Scale.of exponent grid) with
    | some digits => ⟨digits, grid⟩
    | none => interval.search exponent fuel (grid - 1)

/-- The numeral with the fewest digits that reads back as a positive number of a layout, and of
several the nearest. -/
def shortest (layout : Binary.Layout) (b : Binary) : Decimal :=
  (Interval.of layout b).search b.exponent (layout.bound + layout.least.natAbs)
    (layout.bound : Int)

end Decimal

end Critique
