import Critique.Settings.Basic
import Critique.Toml.Document

/-!
# Settings files

What a TOML document sets. A setting that is missing keeps its default. A group of settings is a
table, in which other keys do not matter, or an array of their values in order.
-/

namespace Critique

open Toml (Value)

namespace Setting

def text : Value → Option Text
  | .text value => some value
  | _ => none

def boolean : Value → Option Bool
  | .boolean value => some value
  | _ => none

def below (bound : Nat) : Value → Option Nat
  | .integer (.ofNat n) => if n < bound then some n else none
  | _ => none

/-- A natural number of any size that a document can hold. -/
def natural : Value → Option Nat := below (Nat.pow 2 64)

def single : Value → Option Single
  | .integer value => some (.ofInt value)
  | .real value => some value.single
  | _ => none

def texts : Value → Option (List Text)
  | .array items => items.mapM text
  | _ => none

/-- The values of a group, for each of its names. A moment is a group without any. -/
def group (names : List Text) : Value → Option (List (Option Value))
  | .table members => some (names.map fun name => members.lookup name)
  | .array items => some ((List.range names.length).map fun i => items[i]?)
  | .moment => some (names.map fun _ => none)
  | _ => none

/-- Reads a value, or keeps the default where there is none. -/
def orKeep {α : Type} (default : α) (read : Value → Option α) : Option Value → Option α
  | some value => read value
  | none => some default

end Setting

open Setting

def Server.ofValue? (value : Value) : Option Server := do
  match ← group ["host", "port", "cors_origin"] value with
  | [host, port, origin] =>
    return {
      host := ← orKeep Server.default.host text host
      port := ← orKeep Server.default.port (below 65536) port
      origin := ← orKeep Server.default.origin text origin }
  | _ => none

def Limits.ofValue? (value : Value) : Option Limits := do
  match ← group ["max_code_chars"] value with
  | [maxCodeChars] =>
    return { maxCodeChars := ← orKeep Limits.default.maxCodeChars natural maxCodeChars }
  | _ => none

def Generation.ofValue? (value : Value) : Option Generation := do
  let usual := Generation.default
  match ← group ["enabled", "min_chars", "loading_sentinel", "token_env"] value with
  | [enabled, minChars, sentinel, tokenVariable] =>
    return {
      enabled := ← orKeep usual.enabled boolean enabled
      acceptance := {
        minChars := ← orKeep usual.acceptance.minChars natural minChars
        sentinel := ← orKeep usual.acceptance.sentinel text sentinel }
      tokenVariable := ← orKeep usual.tokenVariable text tokenVariable
      token := none }
  | _ => none

def Completion.Sampling.ofValue? (value : Value) : Option Completion.Sampling := do
  let usual := Completion.Sampling.default
  match ← group ["max_new_tokens", "temperature", "top_p", "repetition_penalty", "top_k",
    "do_sample"] value with
  | [maxNewTokens, temperature, topP, repetitionPenalty, topK, doSample] =>
    return {
      maxNewTokens := ← orKeep usual.maxNewTokens (below (Nat.pow 2 32)) maxNewTokens
      temperature := ← orKeep usual.temperature single temperature
      topP := ← orKeep usual.topP single topP
      repetitionPenalty := ← orKeep usual.repetitionPenalty single repetitionPenalty
      topK := ← orKeep usual.topK (fun value => (below (Nat.pow 2 32) value).map some) topK
      doSample := ← orKeep usual.doSample boolean doSample }
  | _ => none

/-- A route that is set in part is completed from the general one. -/
def Route.ofValue? (value : Value) : Option Route := do
  match ← group ["providers", "timeout_secs", "options"] value with
  | [addresses, timeout, sampling] =>
    return {
      addresses := ← orKeep Route.default.addresses texts addresses
      timeout := ← orKeep Route.default.timeout natural timeout
      sampling := ← orKeep Route.default.sampling Completion.Sampling.ofValue? sampling }
  | _ => none

def Routes.ofValue? (value : Value) : Option Routes := do
  match ← group ["review", "bugs", "optimize", "learn"] value with
  | [review, bugs, optimize, learn] =>
    return {
      review := ← orKeep Routes.default.review Route.ofValue? review
      bugs := ← orKeep Routes.default.bugs Route.ofValue? bugs
      optimize := ← orKeep Routes.default.optimize Route.ofValue? optimize
      learn := ← orKeep Routes.default.learn Route.ofValue? learn }
  | _ => none

def disabledOfValue? (value : Value) : Option (List Text) := do
  match ← group ["disabled"] value with
  | [disabled] => orKeep [] texts disabled
  | _ => none

def Settings.ofValue? (value : Value) : Option Settings := do
  match ← group ["server", "limits", "ai", "gateway", "rules"] value with
  | [server, limits, generation, routes, rules] =>
    return {
      source := none
      server := ← orKeep Server.default Server.ofValue? server
      limits := ← orKeep Limits.default Limits.ofValue? limits
      generation := ← orKeep Generation.default Generation.ofValue? generation
      routes := ← orKeep Routes.default Routes.ofValue? routes
      disabledRules := ← orKeep [] disabledOfValue? rules }
  | _ => none

def Settings.parse? (document : Text) : Option Settings := do
  Settings.ofValue? (← Toml.parse? document)

end Critique
