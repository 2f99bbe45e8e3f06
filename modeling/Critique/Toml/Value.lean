import Critique.Number.Single

/-!
# TOML values
-/

namespace Critique.Toml

/-- A number with a point or an exponent, or one of the two that have no digits. -/
inductive Real where
  | finite (negative : Bool) (magnitude : Decimal)
  | infinite (negative : Bool)
  | nan
  deriving DecidableEq, Repr

/-- The nearest number of single precision. -/
def Real.single : Real → Single
  | .finite negative magnitude => .ofDecimal negative magnitude
  | .infinite negative => .infinite negative
  | .nan => .nan

inductive Value where
  | text (value : Text)
  | integer (value : Int)
  | real (value : Real)
  | boolean (value : Bool)
  /-- A date, a time or both. -/
  | moment
  | array (items : List Value)
  | table (members : List (Text × Value))
  deriving Inhabited

end Critique.Toml
