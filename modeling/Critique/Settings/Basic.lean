import Critique.Completion.Endpoint

/-!
# Settings

What can be set about the service, and what holds where nothing is set.
-/

namespace Critique

structure Server where
  host : Text
  port : Nat
  /-- Origin that browsers may call from; a star stands for any. -/
  origin : Text
  deriving DecidableEq, Repr

def Server.default : Server := ⟨"0.0.0.0", 8080, "http://localhost:5173"⟩

structure Limits where
  /-- Longest code that is accepted, in characters. -/
  maxCodeChars : Nat
  deriving DecidableEq, Repr

def Limits.default : Limits := ⟨10000⟩

structure Generation where
  enabled : Bool
  acceptance : Completion.Acceptance
  /-- Variable of the environment that holds the token. -/
  tokenVariable : Text
  /-- Comes from the environment alone. -/
  token : Option Text
  deriving DecidableEq, Repr

def Generation.default : Generation := ⟨true, .default, "HF_TOKEN", none⟩

/-- The models that are asked for one kind of answer. -/
structure Route where
  /-- Addresses in the order in which they are tried. -/
  addresses : List Text
  timeout : Nat
  sampling : Completion.Sampling
  deriving DecidableEq, Repr

namespace Route

def modelAddress (model : Text) : Text :=
  "https://api-inference.huggingface.co/models/" ++ model

def default : Route where
  addresses := ([
    "microsoft/codebert-base",
    "codeparrot/codeparrot",
    "gpt2",
    "facebook/blenderbot-400M-distill"] : List Text).map modelAddress
  timeout := 30
  sampling := .default

/-- The route of optimizations where no other is set. -/
def forOptimize : Route where
  addresses := (["microsoft/codereviewer-base", "codeparrot/codeparrot"] : List Text).map
    modelAddress
  timeout := 60
  sampling := {
    Completion.Sampling.default with
    temperature := Completion.hundredths 20
    topP := Completion.hundredths 95
    repetitionPenalty := Completion.hundredths 120
    topK := some 40 }

end Route

structure Routes where
  review : Route
  bugs : Route
  optimize : Route
  learn : Route
  deriving DecidableEq, Repr

def Routes.default : Routes := ⟨.default, .default, .forOptimize, .default⟩

structure Settings where
  /-- The file they were read from, if any. -/
  source : Option Text
  server : Server
  limits : Limits
  generation : Generation
  routes : Routes
  /-- Ids of rules that are never evaluated. -/
  disabledRules : List Text
  deriving DecidableEq, Repr

def Settings.default : Settings := ⟨none, .default, .default, .default, .default, []⟩

end Critique
