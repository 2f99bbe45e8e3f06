import Critique.Completion.Chain
import Critique.Http.Message
import Critique.Json.Printer
import Critique.Json.Reader
import Critique.Number.Single
import Critique.Text.Casing

/-!
# Inference endpoints

A provider that asks a model behind an address. It sends nothing without a token.
-/

namespace Critique.Completion

structure Sampling where
  maxNewTokens : Nat
  temperature : Single
  topP : Single
  repetitionPenalty : Single
  topK : Option Nat
  doSample : Bool
  deriving DecidableEq, Repr

/-- The single precision number nearest to some hundredths. -/
def hundredths (n : Nat) : Single := .ofDecimal false ⟨n, -2⟩

def Sampling.default : Sampling where
  maxNewTokens := 1500
  temperature := hundredths 10
  topP := hundredths 90
  repetitionPenalty := hundredths 110
  topK := none
  doSample := true

def numeral (x : Single) : Json :=
  match x.numeral? with
  | some literal => .number literal
  | none => .null

/-- The settings as a model takes them, which is to answer without repeating the prompt. -/
def Sampling.parameters (sampling : Sampling) : Json := .record [
  ("max_new_tokens", some (.ofNat sampling.maxNewTokens)),
  ("temperature", some (numeral sampling.temperature)),
  ("top_p", some (numeral sampling.topP)),
  ("repetition_penalty", some (numeral sampling.repetitionPenalty)),
  ("top_k", sampling.topK.map .ofNat),
  ("do_sample", some (.bool sampling.doSample)),
  ("return_full_text", some (.bool false))]

/-! ## Requests -/

structure Request where
  address : Text
  authorization : Text
  body : Text
  deriving DecidableEq, Repr

inductive Exchange where
  | reply (status : Nat) (body : Utf8.Bytes)
  | silence
  | broken

/-- The last part of an address names the model. -/
def modelId (address : Text) : Text :=
  ((address.reverse.dropWhile (· == '/')).takeWhile (· != '/')).reverse

def usable (token : Option Text) : Option Text := token.filter (!Text.blank ·)

def requestBody (sampling : Sampling) (prompt : Text) : Json := .object [
  ("inputs", .string prompt),
  ("parameters", sampling.parameters)]

def request (sampling : Sampling) (address token prompt : Text) : Request where
  address
  authorization := "Bearer " ++ token
  body := (requestBody sampling prompt).compact

/-! ## Replies -/

/-- Longer error texts are cut. -/
def longestError : Nat := 200

def isSuccess (status : Nat) : Bool := 200 ≤ status && status < 300

/-- The part of a reply that holds the completion. -/
def record? : Json → Option Json
  | .array items => items.head?
  | .object members => some (.object members)
  | _ => none

def errorFault : Option Text → Fault
  | some error =>
    if Text.contains "loading" (Text.lower error) then .loading
    else .malformed (Text.truncate longestError error)
  | none => .malformed "missing generated_text"

def completionOf (value : Json) : Except Fault Text :=
  match record? value with
  | none => .error (.malformed "no completion in response")
  | some record =>
    match (record.get? "generated_text").bind Json.text? with
    | some text => .ok text
    | none => .error (errorFault ((record.get? "error").bind Json.text?))

/-- What a reply says, read as JSON by `parse?`. -/
def decodeReply (parse? : Text → Option Json) (status : Nat) (body : Text) : Except Fault Text :=
  if !isSuccess status then .error (.status status (Text.truncate longestError body))
  else match parse? body with
    | some value => completionOf value
    | none => .error .unreadable

def parseText? (t : Text) : Option Json := Json.parse? (Utf8.encode t)

/-! ## The provider -/

/-- Where requests are sent, and what comes of them. -/
abbrev Network := Request → Exchange

def ask (network : Network) (sampling : Sampling) (timeout : Duration) (token : Option Text)
    (address prompt : Text) : Except Fault Text :=
  match usable token with
  | none => .error .missingCredential
  | some token =>
    let request := request sampling address token prompt
    if !Http.isHeaderValue request.authorization then .error .transport
    else match network request with
      | .reply status body => decodeReply parseText? status (Utf8.decodeLossy body)
      | .silence => .error (.timeout timeout)
      | .broken => .error .transport

def Reply.ofResult : Except Fault Text → Reply
  | .ok completion => .text completion
  | .error reason => .fault reason

def endpoint (network : Network) (sampling : Sampling) (timeout : Duration) (token : Option Text)
    (address : Text) : Provider where
  id := modelId address
  reply prompt := .ofResult (ask network sampling timeout token address prompt)

end Critique.Completion
