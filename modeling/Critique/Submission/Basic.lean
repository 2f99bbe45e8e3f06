import Critique.Language

/-!
# Submissions

What a caller sends, and what is accepted of it.
-/

namespace Critique

/-- Code as it comes in. Either field may be missing. -/
structure CodeRequest where
  code : Option Text
  language : Option Text
  deriving DecidableEq, Repr

/-- A question about a topic as it comes in. -/
structure TopicRequest where
  language : Option Text
  topic : Option Text
  deriving DecidableEq, Repr

inductive Refusal where
  /-- A field that is needed is missing or blank. -/
  | missing (fields : Text)
  | tooLong (length max : Nat)
  deriving DecidableEq, Repr

namespace Refusal

def code : Refusal → Text
  | .missing _ => "MISSING_FIELD"
  | .tooLong .. => "CODE_TOO_LONG"

def message : Refusal → Text
  | .missing fields => fields ++ " are required."
  | .tooLong _ max => "Code exceeds maximum length of " ++ Text.ofNat max ++ " characters."

end Refusal

/-- A field that holds more than blanks. -/
def nonBlank (field : Option Text) : Option Text := field.filter (!Text.blank ·)

/-- Code that is accepted for analysis, kept as it came. -/
structure Submission where
  code : Text
  /-- Canonical name. -/
  language : Text
  deriving DecidableEq, Repr

def Submission.ofRequest (max : Nat) (request : CodeRequest) : Except Refusal Submission :=
  match nonBlank request.code, nonBlank request.language with
  | some code, some language =>
    if max < code.length then .error (.tooLong code.length max)
    else .ok ⟨code, Language.canonical language⟩
  | _, _ => .error (.missing "Code and language")

/-- A topic that is accepted, without the blanks around it. -/
structure TopicSubmission where
  /-- Canonical name. -/
  language : Text
  topic : Text
  deriving DecidableEq, Repr

def TopicSubmission.ofRequest (request : TopicRequest) : Except Refusal TopicSubmission :=
  match nonBlank request.language, nonBlank request.topic with
  | some language, some topic => .ok ⟨Language.canonical language, Text.trim topic⟩
  | _, _ => .error (.missing "Language and topic")

end Critique
