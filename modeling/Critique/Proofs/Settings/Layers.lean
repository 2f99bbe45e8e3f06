import Critique.Proofs.Settings.Environment
import Critique.Proofs.Settings.File

/-!
# Layers of settings

A setting comes from the environment, or else from the settings file, or else it is built in.
`layered`: this holds of each setting on its own, however many of the others a file or the
environment sets. The token is in the environment alone.
-/

namespace Critique

open Text (blank)
open Toml (Value)
open Setting Environment

-- ---------------------------------------------------------------------------
-- Variables
-- ---------------------------------------------------------------------------

namespace Setting

variable {α : Type} {spells : Text → α → Prop} {lower : α → Prop} {raw? : Option Text}

/-- What a variable spells, or what holds below it where it spells nothing. -/
inductive Overridden (spells : Text → α → Prop) (lower : α → Prop) : Option Text → α → Prop where
  | spelled {raw : Text} {value : α} : spells raw value → Overridden spells lower (some raw) value
  | unset {value : α} : lower value → Overridden spells lower none value
  | invalid {raw : Text} {value : α} : (∀ other, ¬ spells raw other) → lower value →
      Overridden spells lower (some raw) value

variable {read : Text → Option α} (hread : ∀ raw value, read raw = some value ↔ spells raw value)

include hread

theorem read_eq_none_iff {raw : Text} : read raw = none ↔ ∀ value, ¬ spells raw value := by
  simp only [Option.eq_none_iff_forall_ne_some, ne_eq, hread]

theorem overridden_iff {value : α} : Overridden spells lower raw? value ↔
    raw?.bind read = some value ∨ raw?.bind read = none ∧ lower value := by
  constructor
  · rintro (h | h | ⟨hnone, h⟩)
    · exact .inl ((hread _ _).mpr h)
    · exact .inr ⟨rfl, h⟩
    · exact .inr ⟨(read_eq_none_iff hread).mpr hnone, h⟩
  · cases raw? with
    | none =>
      rintro (h | ⟨-, h⟩)
      · cases h
      · exact .unset h
    | some raw =>
      rintro (h | ⟨hnone, h⟩)
      · exact .spelled ((hread _ _).mp h)
      · exact .invalid ((read_eq_none_iff hread).mp hnone) h

theorem Overridden.unique {value other : α} (h : Overridden spells lower raw? value)
    (ho : Overridden spells lower raw? other)
    (hlower : lower value → lower other → value = other) : value = other := by
  rw [overridden_iff hread] at h ho
  rcases h with h | ⟨hnone, h⟩
  · rcases ho with ho | ⟨hnone, -⟩
    · exact Option.some.inj (h.symm.trans ho)
    · cases h.symm.trans hnone
  · rcases ho with ho | ⟨-, ho⟩
    · cases ho.symm.trans hnone
    · exact hlower h ho

end Setting

namespace Settings

variable {tree : Tree} {folder start : Text} {named : Option Text} {settings : Settings}

/-- What all three layers make of the settings. -/
structure Layered (env : Environment) (file : Option Value) (settings : Settings) : Prop where
  host : Given text Server.default.host (entry file ["server", "host"]) settings.server.host
  port : Overridden SpellsPort
    (Given (below 65536) Server.default.port (entry file ["server", "port"]))
    (env portVariable) settings.server.port
  origin : Given text Server.default.origin (entry file ["server", "cors_origin"])
    settings.server.origin
  maxCodeChars : Given natural Limits.default.maxCodeChars
    (entry file ["limits", "max_code_chars"]) settings.limits.maxCodeChars
  enabled : Overridden SpellsSwitch
    (Given boolean Generation.default.enabled (entry file ["ai", "enabled"]))
    (env switchVariable) settings.generation.enabled
  minChars : Given natural Generation.default.acceptance.minChars (entry file ["ai", "min_chars"])
    settings.generation.acceptance.minChars
  sentinel : Given text Generation.default.acceptance.sentinel
    (entry file ["ai", "loading_sentinel"]) settings.generation.acceptance.sentinel
  tokenVariable : Given text Generation.default.tokenVariable (entry file ["ai", "token_env"])
    settings.generation.tokenVariable
  token : ∀ token, settings.generation.token = some token ↔
    env settings.generation.tokenVariable = some token ∧ blank token = false
  routes : ∀ kind ∈ Routes.kinds, Route.Source
    (if (entry file ["gateway", kind.1]).isSome then .default else kind.2 .default)
    (entry file ["gateway", kind.1]) (kind.2 settings.routes)
  disabledRules : Given texts [] (entry file ["rules", "disabled"]) settings.disabledRules

/-- The layers decide all of the settings but where they come from. -/
theorem Layered.unique {env : Environment} {file : Option Value} {other : Settings}
    (h : Layered env file settings) (ho : Layered env file other) :
    settings = { other with source := settings.source } := by
  obtain ⟨source, ⟨host, port, origin⟩, ⟨maxCodeChars⟩,
    ⟨enabled, ⟨minChars, sentinel⟩, tokenVariable, token⟩, routes, disabledRules⟩ := settings
  obtain rfl : host = other.server.host := h.host.unique ho.host
  obtain rfl : port = other.server.port :=
    h.port.unique port?_eq_some_iff ho.port Given.unique
  obtain rfl : origin = other.server.origin := h.origin.unique ho.origin
  obtain rfl : maxCodeChars = other.limits.maxCodeChars := h.maxCodeChars.unique ho.maxCodeChars
  obtain rfl : enabled = other.generation.enabled :=
    h.enabled.unique switch?_eq_some_iff ho.enabled Given.unique
  obtain rfl : minChars = other.generation.acceptance.minChars := h.minChars.unique ho.minChars
  obtain rfl : sentinel = other.generation.acceptance.sentinel := h.sentinel.unique ho.sentinel
  obtain rfl : tokenVariable = other.generation.tokenVariable :=
    h.tokenVariable.unique ho.tokenVariable
  obtain rfl : token = other.generation.token :=
    Option.ext fun t => (h.token t).trans (ho.token t).symm
  obtain rfl : routes = other.routes :=
    Routes.eq_of_kinds fun kind hk => (h.routes kind hk).unique (ho.routes kind hk)
  obtain rfl : disabledRules = other.disabledRules := h.disabledRules.unique ho.disabledRules
  rfl

end Settings

end Critique
