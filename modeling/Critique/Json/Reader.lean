import Critique.Json.Basic
import Critique.Json.Number
import Critique.Json.Token

/-!
# Reading JSON

A value is built from tokens one at a time, with the containers that are still open on a stack.
-/

namespace Critique.Json

/-- A container that is not yet closed, with its contents so far, last first. -/
inductive Frame where
  | array (items : List Json)
  | object (members : List (Text × Json))
  /-- An object whose next member has this key. -/
  | member (members : List (Text × Json)) (key : Text)

inductive Expect where
  | value
  | itemOrEnd
  | keyOrEnd
  | key
  | colon
  | commaOrEnd
  /-- The value is complete. -/
  | nothing (value : Json)

structure Building where
  frames : List Frame
  expect : Expect

/-- Members in order, the last of several with one key standing for all of them. -/
def distinct (reversed : List (Text × Json)) : List (Text × Json) :=
  reversed.foldl
    (fun members (key, value) =>
      if members.any (·.1 == key) then members else (key, value) :: members) []

namespace Building

def start : Building := ⟨[], .value⟩

def isOver (building : Building) : Bool :=
  match building.expect with
  | .nothing _ => true
  | _ => false

/-- Puts a complete value where it belongs. -/
def put (value : Json) : List Frame → Option Building
  | [] => some ⟨[], .nothing value⟩
  | .array items :: frames => some ⟨.array (value :: items) :: frames, .commaOrEnd⟩
  | .member members key :: frames => some ⟨.object ((key, value) :: members) :: frames, .commaOrEnd⟩
  | .object _ :: _ => none

def openValue (frames : List Frame) : Token → Option Building
  | .null => put .null frames
  | .bool value => put (.bool value) frames
  | .number literal => put (.number literal) frames
  | .string value => put (.string (value.getD [])) frames
  | .openArray => some ⟨.array [] :: frames, .itemOrEnd⟩
  | .openObject => some ⟨.object [] :: frames, .keyOrEnd⟩
  | _ => none

def readKey (frames : List Frame) (key : Option Text) : Option Building :=
  match frames with
  | .object members :: frames => some ⟨.member members (key.getD []) :: frames, .colon⟩
  | _ => none

def close (frames : List Frame) (token : Token) : Option Building :=
  match frames, token with
  | .array items :: frames, .closeArray => put (.array items.reverse) frames
  | .object members :: frames, .closeObject => put (.object (distinct members)) frames
  | _, _ => none

def separate (frames : List Frame) : Option Building :=
  match frames with
  | .array _ :: _ => some ⟨frames, .value⟩
  | .object _ :: _ => some ⟨frames, .key⟩
  | _ => none

def next (building : Building) (token : Token) : Option Building :=
  match building.expect, token with
  | .value, token => openValue building.frames token
  | .itemOrEnd, .closeArray => close building.frames .closeArray
  | .itemOrEnd, token => openValue building.frames token
  | .keyOrEnd, .string key => readKey building.frames key
  | .keyOrEnd, .closeObject => close building.frames .closeObject
  | .key, .string key => readKey building.frames key
  | .colon, .colon => some ⟨building.frames, .value⟩
  | .commaOrEnd, .comma => separate building.frames
  | .commaOrEnd, token => close building.frames token
  | _, _ => none

end Building

/-- What follows the value that some tokens continue, whatever its strings and numbers. -/
def skip (building : Building) : List Token → Option (List Token)
  | [] => none
  | token :: rest =>
    match building.next token with
    | some building => if building.isOver then some rest else skip building rest
    | none => none

/-- Whether a value can hold what a token spells. -/
def Token.holds : Token → Bool
  | .number literal => Number.inRange literal
  | .string value => value.isSome
  | _ => true

/-- Containers may stand in one another up to this depth. -/
def deepest : Nat := 127

/-- The value that some tokens continue, with nothing after it. -/
def finish (building : Building) : List Token → Option Json
  | [] =>
    match building.expect with
    | .nothing value => some value
    | _ => none
  | token :: rest =>
    if token.holds then
      match building.next token with
      | some building => if deepest < building.frames.length then none else finish building rest
      | none => none
    else none

/-- The value that a JSON text in UTF-8 spells. -/
def parse? (bytes : Utf8.Bytes) : Option Json := finish .start (tokens bytes)

end Critique.Json
