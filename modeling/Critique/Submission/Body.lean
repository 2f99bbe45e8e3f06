import Critique.Json.Reader
import Critique.Submission.Basic

/-!
# Bodies of requests

A request is an object with two texts or an array of just these two; either may be null, and an
object may leave them out and hold other members. A body is read from front to back, and what is
wrong first decides how it is turned down.
-/

namespace Critique

inductive Flaw where
  /-- It is no JSON. -/
  | ungrammatical
  /-- It is JSON of another shape. -/
  | misfit
  deriving DecidableEq, Repr

namespace Fields

open Json (Token Building)

abbrev Pair := Option Text × Option Text

/-- A value of the wrong kind is still read to its end, except a container. -/
def flawOf : Token → Flaw
  | .number literal => if Json.Number.inRange literal then .misfit else .ungrammatical
  | .string value => if value.isSome then .misfit else .ungrammatical
  | .null | .bool _ | .openArray | .openObject => .misfit
  | _ => .ungrammatical

def value : List Token → Except Flaw (Option Text × List Token)
  | .null :: rest => .ok (none, rest)
  | .string (some t) :: rest => .ok (some t, rest)
  | token :: _ => .error (flawOf token)
  | [] => .error .ungrammatical

/-- Which of the fields have been read, and what they hold. -/
structure Known where
  first : Option (Option Text)
  second : Option (Option Text)

def Known.pair (known : Known) : Pair := (known.first.join, known.second.join)

def afterColon : List Token → Except Flaw (List Token)
  | .colon :: rest => .ok rest
  | _ => .error .ungrammatical

/-- Reads the colon and the value of a field that must not have been read before. -/
def fresh (before : Option (Option Text)) (tokens : List Token) :
    Except Flaw (Option Text × List Token) :=
  if before.isSome then .error .misfit
  else do value (← afterColon tokens)

def member (names : Text × Text) (known : Known) (key : Text) (tokens : List Token) :
    Except Flaw (Known × List Token) :=
  if key = names.1 then do
    let (t, rest) ← fresh known.first tokens
    return ({ known with first := some t }, rest)
  else if key = names.2 then do
    let (t, rest) ← fresh known.second tokens
    return ({ known with second := some t }, rest)
  else do
    match Json.skip .start (← afterColon tokens) with
    | some rest => return (known, rest)
    | none => .error .ungrammatical

/-- Reads members from a key on, at most `fuel` of them. -/
def members (names : Text × Text) : (fuel : Nat) → Known → List Token →
    Except Flaw (Pair × List Token)
  | 0, _, _ => .error .ungrammatical
  | fuel + 1, known, .string (some key) :: rest => do
    let (known, rest) ← member names known key rest
    match rest with
    | .comma :: rest => members names fuel known rest
    | .closeObject :: rest => return (known.pair, rest)
    | _ => .error .ungrammatical
  | _, _, _ => .error .ungrammatical

/-- Reads the items of an array from behind its bracket on. -/
def items (tokens : List Token) : Except Flaw (Pair × List Token) :=
  match tokens with
  | .closeArray :: _ => .error .misfit
  | _ => do
    let (first, rest) ← value tokens
    match rest with
    | .closeArray :: _ => .error .misfit
    | .comma :: rest =>
      let (second, rest) ← value rest
      match rest with
      | .closeArray :: rest => return ((first, second), rest)
      | _ => .error .ungrammatical
    | _ => .error .ungrammatical

def pair (names : Text × Text) : List Token → Except Flaw (Pair × List Token)
  | .openObject :: .closeObject :: rest => .ok ((none, none), rest)
  | .openObject :: rest => members names rest.length ⟨none, none⟩ rest
  | .openArray :: rest => items rest
  | token :: _ => .error (flawOf token)
  | [] => .error .ungrammatical

/-- The two fields that a body holds. -/
def ofBody (names : Text × Text) (body : Utf8.Bytes) : Except Flaw Pair :=
  match pair names (Json.tokens body) with
  | .ok (pair, []) => .ok pair
  | .ok (_, _ :: _) => .error .ungrammatical
  | .error flaw => .error flaw

def ofValue? : Json → Option (Option Text)
  | .null => some none
  | .string t => some (some t)
  | _ => none

/-- The field of an object, or null if there is none. -/
def ofMember? (name : Text) (value : Json) : Option (Option Text) :=
  ofValue? ((value.get? name).getD .null)

/-- The two fields that a JSON value holds. -/
def ofJson? (names : Text × Text) : Json → Option Pair
  | .object members => do
    return (← ofMember? names.1 (.object members), ← ofMember? names.2 (.object members))
  | .array [first, second] => do return (← ofValue? first, ← ofValue? second)
  | _ => none

end Fields

def CodeRequest.fieldNames : Text × Text := ("code", "language")

def CodeRequest.ofFields (fields : Fields.Pair) : CodeRequest := ⟨fields.1, fields.2⟩

def CodeRequest.ofBody (body : Utf8.Bytes) : Except Flaw CodeRequest :=
  (Fields.ofBody fieldNames body).map ofFields

def CodeRequest.ofJson? (value : Json) : Option CodeRequest :=
  (Fields.ofJson? fieldNames value).map ofFields

def TopicRequest.fieldNames : Text × Text := ("language", "topic")

def TopicRequest.ofFields (fields : Fields.Pair) : TopicRequest := ⟨fields.1, fields.2⟩

def TopicRequest.ofBody (body : Utf8.Bytes) : Except Flaw TopicRequest :=
  (Fields.ofBody fieldNames body).map ofFields

def TopicRequest.ofJson? (value : Json) : Option TopicRequest :=
  (Fields.ofJson? fieldNames value).map ofFields

end Critique
