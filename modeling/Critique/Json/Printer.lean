import Critique.Json.Basic

/-!
# Writing JSON

A value is written either without blanks or, laid out, with one member a line and two columns
for each level. Quotes, backslashes and control characters are escaped and nothing else.
-/

namespace Critique.Json

def hexDigit (n : Nat) : Char := Nat.digitChar (n % 16)

def escape (c : Char) : Text :=
  if c = '"' then ['\\', '"']
  else if c = '\\' then ['\\', '\\']
  else if c = '\n' then ['\\', 'n']
  else if c = '\r' then ['\\', 'r']
  else if c = '\t' then ['\\', 't']
  else if c = '\x08' then ['\\', 'b']
  else if c = '\x0c' then ['\\', 'f']
  else if c.toNat < 0x20 then
    ['\\', 'u', '0', '0', hexDigit (c.toNat / 16), hexDigit c.toNat]
  else [c]

def quote (t : Text) : Text := '"' :: t.flatMap escape ++ ['"']

mutual

def compact : Json → Text
  | .null => "null"
  | .bool value => if value then "true" else "false"
  | .number literal => literal
  | .string value => quote value
  | .array items => '[' :: compactItems items
  | .object members => '{' :: compactMembers members

def compactItems : List Json → Text
  | [] => [']']
  | [item] => compact item ++ [']']
  | item :: next :: rest => compact item ++ ',' :: compactItems (next :: rest)

def compactMembers : List (Text × Json) → Text
  | [] => ['}']
  | [(key, value)] => quote key ++ ':' :: compact value ++ ['}']
  | (key, value) :: next :: rest =>
    quote key ++ ':' :: compact value ++ ',' :: compactMembers (next :: rest)

end

def newline (level : Nat) : Text := '\n' :: List.replicate (2 * level) ' '

mutual

/-- The layout of a value whose first character stands at a level. -/
def pretty (level : Nat) : Json → Text
  | .array (item :: rest) =>
    '[' :: newline (level + 1) ++ pretty (level + 1) item ++ prettyItems level rest
  | .object ((key, value) :: rest) =>
    '{' :: newline (level + 1) ++ quote key ++ ": " ++ pretty (level + 1) value ++
      prettyMembers level rest
  | value => compact value

def prettyItems (level : Nat) : List Json → Text
  | [] => newline level ++ [']']
  | item :: rest =>
    ',' :: newline (level + 1) ++ pretty (level + 1) item ++ prettyItems level rest

def prettyMembers (level : Nat) : List (Text × Json) → Text
  | [] => newline level ++ ['}']
  | (key, value) :: rest =>
    ',' :: newline (level + 1) ++ quote key ++ ": " ++ pretty (level + 1) value ++
      prettyMembers level rest

end

end Critique.Json
