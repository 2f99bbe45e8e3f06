import Critique.Completion.Acceptance

/-!
# Chains of providers

Providers are tried one after the other until one gives an acceptable completion. A chain never
fails: that no provider is left is an outcome like any other.
-/

namespace Critique.Completion

inductive Reply where
  | text (text : Text)
  | fault (fault : Fault)
  /-- Nothing comes before the time is up. -/
  | silence
  deriving DecidableEq, Repr

structure Provider where
  id : Text
  reply : (prompt : Text) → Reply

structure Chain where
  providers : List Provider
  /-- How long each provider may take. -/
  timeout : Duration
  acceptance : Acceptance

structure Attempt where
  provider : Text
  result : Except Fault Text

inductive Outcome where
  | generated (text provider : Text)
  | exhausted (attempts : Nat)
  deriving DecidableEq, Repr

namespace Chain

def judge (chain : Chain) (prompt : Text) : Reply → Except Fault Text
  | .text reply => chain.acceptance.check prompt reply
  | .fault fault => .error fault
  | .silence => .error (.timeout chain.timeout)

def attempt (chain : Chain) (prompt : Text) (provider : Provider) : Attempt :=
  ⟨provider.id, chain.judge prompt (provider.reply prompt)⟩

/-- Attempts in order, up to the first that gives a completion. -/
def attemptsOf (chain : Chain) (prompt : Text) : List Provider → List Attempt
  | [] => []
  | provider :: rest =>
    let first := chain.attempt prompt provider
    match first.result with
    | .ok _ => [first]
    | .error _ => first :: attemptsOf chain prompt rest

def attempts (chain : Chain) (prompt : Text) : List Attempt :=
  chain.attemptsOf prompt chain.providers

def ids (chain : Chain) : List Text := chain.providers.map (·.id)

end Chain

def Attempt.completion? (attempt : Attempt) : Option (Text × Text) :=
  match attempt.result with
  | .ok text => some (text, attempt.provider)
  | .error _ => none

def Attempt.failure? (attempt : Attempt) : Option (Text × Fault) :=
  match attempt.result with
  | .ok _ => none
  | .error fault => some (attempt.provider, fault)

def Outcome.ofAttempts (attempts : List Attempt) : Outcome :=
  match attempts.findSome? Attempt.completion? with
  | some (text, provider) => .generated text provider
  | none => .exhausted attempts.length

def Chain.outcome (chain : Chain) (prompt : Text) : Outcome := .ofAttempts (chain.attempts prompt)

end Critique.Completion
