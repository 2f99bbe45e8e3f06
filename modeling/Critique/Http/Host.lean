import Critique.Number.Decimal
import Critique.Text.Basic

/-!
# Hosts

The addresses that a service can listen on: four numbers with dots, or up to eight groups of
hexadecimal digits in brackets. No name is looked up.
-/

namespace Critique.Http.Host

/-- Decimal digits of a number below a bound. -/
def isBelow (bound : Nat) (t : Text) : Bool :=
  !t.isEmpty && t.all Decimal.isDigit && (Decimal.below? bound t).isSome

/-- A byte has no zeros in front. -/
def isByte (t : Text) : Bool := isBelow 256 t && (t.length = 1 || t.head? != some '0')

def isFourBytes (t : Text) : Bool :=
  let bytes := Text.piecesAt '.' t
  bytes.length = 4 && bytes.all isByte

def isHexDigit (c : Char) : Bool := Decimal.isDigit c || ('a' ≤ c.toLower && c.toLower ≤ 'f')

def isGroup (t : Text) : Bool := !t.isEmpty && t.length ≤ 4 && t.all isHexDigit

/-- How many groups some pieces make. The last one may be four bytes, which count as two. -/
def groupsOf : List Text → Option Nat
  | [] => some 0
  | [last] => if isGroup last then some 1 else if isFourBytes last then some 2 else none
  | group :: next :: rest =>
    if isGroup group then (groupsOf (next :: rest)).map (· + 1) else none

/-- Groups with colons between them, or nothing at all. -/
def groups? (t : Text) : Option Nat := if t.isEmpty then some 0 else groupsOf (Text.piecesAt ':' t)

/-- What stands before and after the first two colons next to each other. -/
def cut? : (before : Text) → Text → Option (Text × Text)
  | before, ':' :: ':' :: rest => some (before.reverse, rest)
  | before, c :: rest => cut? (c :: before) rest
  | _, [] => none

/-- Eight groups, or fewer where two colons stand for those that are zero. -/
def isGroups (t : Text) : Bool :=
  match cut? [] t with
  | none => groups? t == some 8
  | some (head, tail) =>
    match groups? head, groups? tail with
    | some before, some behind => !head.any (· == '.') && before + behind ≤ 7
    | _, _ => false

/-- Groups, perhaps with the number of a zone after a percent sign. -/
def isZoned (t : Text) : Bool :=
  match Text.piecesAt '%' t with
  | [address] => isGroups address
  | [address, zone] => isGroups address && isBelow (Nat.pow 2 32) zone
  | _ => false

/-- The text between a pair of brackets. -/
def inBrackets? (t : Text) : Option Text :=
  match t with
  | '[' :: rest => if rest.getLast? = some ']' then some rest.dropLast else none
  | _ => none

def isAddress (host : Text) : Bool :=
  match inBrackets? host with
  | some address => isZoned address
  | none => isFourBytes host

end Critique.Http.Host
