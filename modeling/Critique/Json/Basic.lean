import Critique.Text.Basic

/-!
# JSON values

A number is kept as it is written. Members of an object keep their order.
-/

namespace Critique

inductive Json where
  | null
  | bool (value : Bool)
  | number (literal : Text)
  | string (value : Text)
  | array (items : List Json)
  | object (members : List (Text × Json))
  deriving Inhabited

namespace Json

def ofNat (n : Nat) : Json := .number (Text.ofNat n)

/-- A text, or null where there is none. -/
def ofText? : Option Text → Json
  | some t => .string t
  | none => .null

def strings (ts : List Text) : Json := .array (ts.map .string)

/-- The members that have a value. -/
def present (members : List (Text × Option Json)) : List (Text × Json) :=
  members.filterMap fun (key, value) => value.map (key, ·)

/-- An object of the members that have a value. -/
def record (members : List (Text × Option Json)) : Json := .object (present members)

def get? (key : Text) : Json → Option Json
  | .object members => members.lookup key
  | _ => none

def text? : Json → Option Text
  | .string t => some t
  | _ => none

end Json

end Critique
