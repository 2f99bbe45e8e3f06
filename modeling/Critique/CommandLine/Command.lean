import Critique.CommandLine.Arguments
import Critique.Listing

/-!
# Commands

What the program can be told to do.
-/

namespace Critique.CommandLine

/-- The lowest risk that fails an analysis. -/
inductive Threshold where
  | high
  | medium
  | low
  | never
  deriving DecidableEq, Repr

namespace Threshold

def all : List Threshold := [.high, .medium, .low, .never]

def slug : Threshold → Text
  | .high => "high"
  | .medium => "medium"
  | .low => "low"
  | .never => "never"

def ofSlug? (slug : Text) : Option Threshold := all.find? (·.slug == slug)

def level? : Threshold → Option Risk.Level
  | .high => some .high
  | .medium => some .medium
  | .low => some .low
  | .never => none

end Threshold

structure Analysis where
  paths : List Text
  kind : Kind
  /-- The language of every file, if their extensions do not tell it. -/
  language : Option Text
  format : Format
  threshold : Threshold
  settingsFile : Option Text
  deriving DecidableEq, Repr

structure Launch where
  settingsFile : Option Text
  port : Option Nat
  deriving DecidableEq, Repr

inductive Command where
  | analyze (analysis : Analysis)
  | serve (launch : Launch)
  | version
  | help
  deriving DecidableEq, Repr

/-! ## Analyses -/

structure Analysis.Draft where
  paths : List Text
  kind : Option Kind
  language : Option Text
  format : Option Format
  threshold : Option Threshold
  settingsFile : Option Text

namespace Analysis

def Draft.empty : Draft := ⟨[], none, none, none, none, none⟩

def path? (value : Text) : Option Text := if value.isEmpty then none else some value

def kindSetter : Setter Draft where
  name := "kind"
  letter := some 'k'
  set draft value := do
    return { draft with kind := ← once "kind" Kind.ofSlug? draft.kind value }

def languageSetter : Setter Draft where
  name := "language"
  letter := some 'l'
  set draft value := do
    return { draft with language := ← once "language" some draft.language value }

def formatSetter : Setter Draft where
  name := "format"
  letter := some 'f'
  set draft value := do
    return { draft with format := ← once "format" Format.ofSlug? draft.format value }

def thresholdSetter : Setter Draft where
  name := "fail-on"
  letter := none
  set draft value := do
    return { draft with threshold := ← once "fail-on" Threshold.ofSlug? draft.threshold value }

def settingsSetter : Setter Draft where
  name := "config"
  letter := some 'c'
  set draft value := do
    return { draft with settingsFile := ← once "config" path? draft.settingsFile value }

def Draft.addPath (draft : Draft) (value : Text) : Except Misuse Draft :=
  match path? value with
  | some path => .ok { draft with paths := draft.paths ++ [path] }
  | none => .error (.badValue "paths" value)

def grammar : Grammar Draft where
  setters := [kindSetter, languageSetter, formatSetter, thresholdSetter, settingsSetter]
  other := Draft.addPath

/-- What is not given is usual. -/
def ofDraft (draft : Draft) : Except Misuse Analysis :=
  if draft.paths.isEmpty then .error .noPaths
  else .ok {
    paths := draft.paths
    kind := draft.kind.getD .review
    language := draft.language
    format := draft.format.getD .pretty
    threshold := draft.threshold.getD .high
    settingsFile := draft.settingsFile }

def parse (words : List Text) : Except Stop Analysis := do
  failing (ofDraft (← grammar.read .empty words))

end Analysis

/-! ## Services -/

namespace Launch

def settingsSetter : Setter Launch where
  name := "config"
  letter := some 'c'
  set launch value := do
    return { launch with settingsFile := ← once "config" Analysis.path? launch.settingsFile value }

def portSetter : Setter Launch where
  name := "port"
  letter := some 'p'
  set launch value := do
    return { launch with port := ← once "port" Environment.portNumber? launch.port value }

def grammar : Grammar Launch where
  setters := [settingsSetter, portSetter]
  other _ value := .error (.unexpected value)

def parse (words : List Text) : Except Stop Launch := grammar.read ⟨none, none⟩ words

end Launch

/-! ## Whole command lines -/

namespace Command

def names : List Text := ["analyze", "serve", "help"]

/-- A request for help is a command of its own, whatever follows it. -/
def orHelp : Except Stop Command → Except Misuse Command
  | .ok command => .ok command
  | .error .help => .ok .help
  | .error (.misuse reason) => .error reason

def parseHelp : List Text → Except Misuse Command
  | [] => .ok .help
  | name :: rest =>
    match names.contains name, rest with
    | false, _ => .error (.unknownCommand name)
    | true, [] => .ok .help
    | true, extra :: _ => .error (.unexpected extra)

def parseNamed (name : Text) (rest : List Text) : Except Misuse Command :=
  if name = "analyze" then orHelp ((Analysis.parse rest).map .analyze)
  else if name = "serve" then orHelp ((Launch.parse rest).map .serve)
  else if name = "help" then parseHelp rest
  else .error (.unknownCommand name)

def parse : List Text → Except Misuse Command
  | [] => .error .noCommand
  | word :: rest =>
    match Word.ofText word with
    | .value name => parseNamed name rest
    | .short 'h' _ => .ok .help
    | .short 'V' _ => .ok .version
    | .long name none =>
      if name = "help" then .ok .help
      else if name = "version" then .ok .version
      else .error (.unknownOption word)
    | _ => .error (.unknownOption word)

end Command

end Critique.CommandLine
