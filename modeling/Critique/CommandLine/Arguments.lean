import Critique.Settings.Environment

/-!
# Arguments

How the words of a command line are read. A command takes options, each with a value that follows
it or is attached to it, and perhaps other values; two dashes end the options. Words are read from
front to back, and the first one that does not fit ends the reading.
-/

namespace Critique.CommandLine

inductive Misuse where
  | noCommand
  | unknownCommand (name : Text)
  | unknownOption (argument : Text)
  | unexpected (value : Text)
  | noValue (option : Text)
  | badValue (option value : Text)
  | repeated (option : Text)
  | noPaths
  deriving DecidableEq, Repr

def Misuse.message : Misuse → Text
  | .noCommand => "no command given"
  | .unknownCommand name => "unknown command " ++ name
  | .unknownOption argument => "unknown option " ++ argument
  | .unexpected value => "unexpected argument " ++ value
  | .noValue option => "no value for " ++ option
  | .badValue option value => "invalid value for " ++ option ++ ": " ++ value
  | .repeated option => option ++ " given twice"
  | .noPaths => "no paths given"

/-- What ends the reading of arguments early. -/
inductive Stop where
  | help
  | misuse (reason : Misuse)
  deriving DecidableEq, Repr

/-! ## Words -/

/-- What a word looks like. A lone dash is a value. -/
inductive Word where
  | value (text : Text)
  | separator
  | long (name : Text) (attached : Option Text)
  | short (letter : Char) (attached : Option Text)
  deriving DecidableEq, Repr

def attachedTo : Text → Option Text
  | '=' :: value => some value
  | _ => none

/-- What follows the letter of an option, with or without an equals sign. -/
def attachedToLetter : Text → Option Text
  | [] => none
  | '=' :: value => some value
  | value => some value

def Word.ofText : Text → Word
  | ['-', '-'] => .separator
  | '-' :: '-' :: rest => .long (rest.takeWhile (· != '=')) (attachedTo (rest.dropWhile (· != '=')))
  | '-' :: letter :: rest => .short letter (attachedToLetter rest)
  | text => .value text

/-! ## Options -/

/-- An option that takes a value, and what the value does to a draft of the command. -/
structure Setter (α : Type) where
  name : Text
  letter : Option Char
  set : α → Text → Except Misuse α

/-- What a command takes: its options, and what it does with other values. -/
structure Grammar (α : Type) where
  setters : List (Setter α)
  other : α → Text → Except Misuse α

/-- Reads a value that may be given only once. -/
def once {β : Type} (option : Text) (read : Text → Option β) (current : Option β) (value : Text) :
    Except Misuse (Option β) :=
  match current, read value with
  | some _, _ => .error (.repeated option)
  | none, some b => .ok (some b)
  | none, none => .error (.badValue option value)

inductive Reading (α : Type) where
  | other (value : Text)
  | separator
  | help
  | set (setter : Setter α) (attached : Option Text)
  | unknown

variable {α : Type}

def Reading.ofSetter? (setter : Option (Setter α)) (attached : Option Text) : Reading α :=
  match setter with
  | some setter => .set setter attached
  | none => .unknown

/-- Help takes no value. -/
def Grammar.reading (grammar : Grammar α) : Word → Reading α
  | .value text => .other text
  | .separator => .separator
  | .long ['h', 'e', 'l', 'p'] none => .help
  | .short 'h' _ => .help
  | .long name attached => .ofSetter? (grammar.setters.find? (·.name == name)) attached
  | .short letter attached =>
    .ofSetter? (grammar.setters.find? (·.letter == some letter)) attached

def Word.isValue : Word → Bool
  | .value _ => true
  | _ => false

def failing {β : Type} (result : Except Misuse β) : Except Stop β := result.mapError .misuse

def Grammar.read (grammar : Grammar α) (draft : α) : List Text → Except Stop α
  | [] => .ok draft
  | word :: rest =>
    match grammar.reading (.ofText word) with
    | .other value => do grammar.read (← failing (grammar.other draft value)) rest
    | .separator => failing (rest.foldlM grammar.other draft)
    | .help => .error .help
    | .unknown => .error (.misuse (.unknownOption word))
    | .set setter (some value) => do grammar.read (← failing (setter.set draft value)) rest
    | .set setter none =>
      match rest with
      | [] => .error (.misuse (.noValue setter.name))
      | value :: rest =>
        if (Word.ofText value).isValue then do
          grammar.read (← failing (setter.set draft value)) rest
        else .error (.misuse (.noValue setter.name))

end Critique.CommandLine
