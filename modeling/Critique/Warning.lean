import Critique.Completion.Chain

/-!
# Warnings

What goes to the log although the program carries on.
-/

namespace Critique

inductive Warning where
  | unknownRule (id : Text)
  | providerFailed (provider : Text) (fault : Completion.Fault)
  | invalidPort (value : Text)
  | invalidSwitch (value : Text)
  | noToken (env : Text)
  | invalidOrigin (origin : Text)
  deriving DecidableEq, Repr

namespace Warning

def message : Warning → Text
  | .unknownRule _ => "Unknown rule in disabled list"
  | .providerFailed .. => "AI provider failed"
  | .invalidPort _ => "Ignoring invalid PORT"
  | .invalidSwitch _ => "Ignoring invalid CODE_SENSEI_AI_ENABLED"
  | .noToken _ => "No AI token configured; reports will use heuristic fallbacks"
  | .invalidOrigin _ => "Invalid CORS origin; cross-origin requests will be refused"

def details : Warning → List (Text × Text)
  | .unknownRule id => [("rule", id)]
  | .providerFailed provider fault => [("provider", provider), ("error", fault.message)]
  | .invalidPort value => [("value", value)]
  | .invalidSwitch value => [("value", value)]
  | .noToken env => [("env", env)]
  | .invalidOrigin origin => [("origin", origin)]

/-- One warning for each attempt that failed. -/
def ofAttempts (attempts : List Completion.Attempt) : List Warning :=
  attempts.filterMap fun attempt =>
    attempt.failure?.map fun (provider, fault) => .providerFailed provider fault

end Warning

end Critique
