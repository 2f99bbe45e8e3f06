import Critique.Text.Basic

/-!
# Binary numbers of limited precision

The nearest number with a limited significand, a tie going to the even one, found with exact
arithmetic on natural numbers.
-/

namespace Critique

/-- The magnitude `significand * 2 ^ exponent`. -/
structure Binary where
  significand : Nat
  exponent : Int
  deriving DecidableEq, Repr

namespace Binary

/-- A layout of numbers in storage. -/
structure Layout where
  /-- Bits of the significand. -/
  precision : Nat
  /-- Exponent of the smallest positive number. -/
  least : Int
  /-- Every number lies below two to this power. -/
  bound : Nat

def Layout.single : Layout := ⟨24, -149, 128⟩

def Layout.double : Layout := ⟨53, -1074, 1024⟩

/-- The quotient rounded to the nearest natural number, a tie to the even one. -/
def roundDiv (n d : Nat) : Nat :=
  let q := n / d
  let r := n % d
  if d < 2 * r || (2 * r == d && q % 2 == 1) then q + 1 else q

/-- Numerator and denominator of a fraction divided by a power of two. -/
def scaleDown (n d : Nat) : Int → Nat × Nat
  | .ofNat e => (n, d * Nat.pow 2 e)
  | .negSucc e => (n * Nat.pow 2 (e + 1), d)

/-- The exponent of the largest power of two that does not exceed a positive fraction. -/
def magnitude (n d : Nat) : Int :=
  let estimate : Int := (Nat.log2 n : Int) - Nat.log2 d
  let (n, d) := scaleDown n d estimate
  if d ≤ n then estimate else estimate - 1

/-- The number of a layout nearest to the fraction `n / d`, unless it lies out of bounds. -/
def round (layout : Layout) (n d : Nat) : Option Binary :=
  if n = 0 then some ⟨0, layout.least⟩
  else
    let exponent := max layout.least (magnitude n d - (layout.precision - 1 : Nat))
    let (n, d) := scaleDown n d exponent
    let significand := roundDiv n d
    let (significand, exponent) :=
      if significand = Nat.pow 2 layout.precision then (significand / 2, exponent + 1)
      else (significand, exponent)
    if exponent + layout.precision ≤ layout.bound then some ⟨significand, exponent⟩ else none

/-- A number as a fraction. -/
def fraction (b : Binary) : Nat × Nat :=
  match b.exponent with
  | .ofNat e => (b.significand * Nat.pow 2 e, 1)
  | .negSucc e => (b.significand, Nat.pow 2 (e + 1))

end Binary

end Critique
