import Critique.Settings.Basic
import Critique.Warning

/-!
# Settings of the environment

Variables of the environment go before the settings file. A value that makes no sense changes
nothing but is warned about.
-/

namespace Critique

abbrev Environment := Text → Option Text

namespace Environment

/-- The number of a port, perhaps with a plus. -/
def portNumber? (value : Text) : Option Nat :=
  let digits := (Text.after? ['+'] value).getD value
  if digits.isEmpty || !digits.all Decimal.isDigit then none else Decimal.below? 65536 digits

/-- A port between blanks. -/
def port? (value : Text) : Option Nat := portNumber? (Text.trim value)

def onWords : List Text := ["1", "true", "yes", "on"]

def offWords : List Text := ["0", "false", "no", "off"]

/-- A switch between blanks; its ASCII letters may be capitals. -/
def switch? (value : Text) : Option Bool :=
  let word := (Text.trim value).map Char.toLower
  if onWords.contains word then some true
  else if offWords.contains word then some false
  else none

def portVariable : Text := "PORT"

def switchVariable : Text := "CODE_SENSEI_AI_ENABLED"

end Environment

/-- Changes a setting to the value of a variable, if that has one. -/
def override {α : Type} (value : Option Text) (read : Text → Option α) (current : α) : α :=
  (value.bind read).getD current

/-- A warning about a value that cannot be read. -/
def objection {α : Type} (value : Option Text) (read : Text → Option α) (warn : Text → Warning) :
    List Warning :=
  match value with
  | some raw => if (read raw).isNone then [warn raw] else []
  | none => []

namespace Settings

open Environment

def withEnvironment (env : Environment) (settings : Settings) : Settings := {
  settings with
  server := { settings.server with
    port := override (env portVariable) port? settings.server.port }
  generation := { settings.generation with
    token := Completion.usable (env settings.generation.tokenVariable)
    enabled := override (env switchVariable) switch? settings.generation.enabled } }

def environmentWarnings (env : Environment) : List Warning :=
  objection (env portVariable) port? .invalidPort ++
    objection (env switchVariable) switch? .invalidSwitch

end Settings

end Critique
