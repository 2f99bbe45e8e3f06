import Critique.Text.Basic

/-!
# Completions

What a text generator may come up with, and when it is good enough for a report.
-/

namespace Critique

/-- A span of time in milliseconds. -/
structure Duration where
  milliseconds : Nat
  deriving DecidableEq, Repr

namespace Duration

def ofSeconds (seconds : Nat) : Duration := ⟨seconds * 1000⟩

def trimZeros (digits : Text) : Text := (digits.reverse.dropWhile (· == '0')).reverse

/-- A point and the thousandths of a second, as many digits as it takes. -/
def fractionText (milliseconds : Nat) : Text :=
  if milliseconds = 0 then []
  else
    let digits := Text.ofNat milliseconds
    '.' :: trimZeros (List.replicate (3 - digits.length) '0' ++ digits)

def text (d : Duration) : Text :=
  if d.milliseconds = 0 then "0ns"
  else if d.milliseconds < 1000 then Text.ofNat d.milliseconds ++ "ms"
  else Text.ofNat (d.milliseconds / 1000) ++ fractionText (d.milliseconds % 1000) ++ "s"

end Duration

namespace Completion

inductive Fault where
  | missingCredential
  /-- No reply came through. -/
  | transport
  | status (code : Nat) (body : Text)
  | timeout (limit : Duration)
  | malformed (reason : Text)
  /-- The reply is no JSON. -/
  | unreadable
  | loading
  | empty
  | tooShort (chars : Nat)
  deriving DecidableEq, Repr

def Fault.message : Fault → Text
  | .missingCredential => "no API token configured"
  | .transport => "request failed"
  | .status code body => "provider returned " ++ Text.ofNat code ++ ": " ++ body
  | .timeout limit => "timed out after " ++ limit.text
  | .malformed reason => "unexpected response: " ++ reason
  | .unreadable => "unexpected response: not JSON"
  | .loading => "model is still loading"
  | .empty => "empty completion"
  | .tooShort chars => "completion too short (" ++ Text.ofNat chars ++ " chars)"

structure Acceptance where
  /-- A completion is longer than this. -/
  minChars : Nat
  /-- Stands in replies that are no completions yet. Where it is empty there are none such. -/
  sentinel : Text
  deriving DecidableEq, Repr

def Acceptance.default : Acceptance := ⟨100, "Model is loading"⟩

/-- A reply without the prompt, if it starts with that, and without the blanks around it. -/
def answer (prompt reply : Text) : Text := Text.trim ((Text.after? prompt reply).getD reply)

def Acceptance.check (acceptance : Acceptance) (prompt reply : Text) : Except Fault Text :=
  let text := answer prompt reply
  if text.isEmpty then .error .empty
  else if !acceptance.sentinel.isEmpty && Text.contains acceptance.sentinel text then
    .error .loading
  else if text.length ≤ acceptance.minChars then .error (.tooShort text.length)
  else .ok text

end Completion

end Critique
