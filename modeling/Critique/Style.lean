import Critique.Text.Basic

/-!
# Styled text

Escape sequences that terminals read as colours. A styled text inside another one ends with a
reset, after which the outer style starts again.
-/

namespace Critique

inductive Colour where
  | red
  | green
  | yellow
  | blue
  | cyan
  deriving DecidableEq, Repr

def Colour.code : Colour → Text
  | .red => "31"
  | .green => "32"
  | .yellow => "33"
  | .blue => "34"
  | .cyan => "36"

inductive Emphasis where
  | bold
  | dimmed
  | underline
  deriving DecidableEq, Repr

def Emphasis.code : Emphasis → Text
  | .bold => "1"
  | .dimmed => "2"
  | .underline => "4"

structure Style where
  emphases : List Emphasis
  colour : Option Colour
  deriving DecidableEq, Repr

namespace Style

def bold : Style := ⟨[.bold], none⟩

def dimmed : Style := ⟨[.dimmed], none⟩

def plain (colour : Colour) : Style := ⟨[], some colour⟩

def strong (colour : Colour) : Style := ⟨[.bold], some colour⟩

def escape (codes : Text) : Text := '\x1b' :: '[' :: codes ++ ['m']

def start (style : Style) : Text :=
  escape (Text.joinWith [';']
    (style.emphases.map Emphasis.code ++ style.colour.toList.map Colour.code))

def reset : Text := escape "0"

/-- Puts the start of a style behind each reset. `skip` is the number of characters still inside
one. -/
def restart (start : Text) : (skip : Nat) → Text → Text
  | _, [] => []
  | 1, c :: rest => c :: start ++ restart start 0 rest
  | skip + 2, c :: rest => c :: restart start (skip + 1) rest
  | 0, c :: rest =>
    c :: restart start (if reset.isPrefixOf (c :: rest) then reset.length - 1 else 0) rest

/-- A text in a style, if there are colours at all. -/
def paint (colours : Bool) (style : Style) (t : Text) : Text :=
  if colours then style.start ++ restart style.start 0 t ++ reset else t

end Style

end Critique
