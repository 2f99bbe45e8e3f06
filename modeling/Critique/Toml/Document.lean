import Critique.Toml.Scalar

/-!
# TOML documents

A document is a list of statements: headers that open tables, and pairs of a key and a value. A
table may be written in several places, but each part of it in one way only.
-/

namespace Critique.Toml

/-! ## Keys -/

def isBare (c : Char) : Bool := c.isAlphanum || c == '_' || c == '-'

def simpleKey? (t : Text) : Option (Text × Text) :=
  match t with
  | '"' :: rest => basic 0 rest
  | '\x27' :: rest => literal rest
  | _ =>
    let key := t.takeWhile isBare
    if key.isEmpty then none else some (key, t.dropWhile isBare)

/-- Values may stand in one another, and keys have parts, up to this number. -/
def deepest : Nat := 79

/-- The parts of a dotted key, at most `fuel` of them. -/
def path? : (fuel : Nat) → Text → Option (List Text × Text)
  | 0, _ => none
  | fuel + 1, t => do
    let (key, rest) ← simpleKey? (skipBlanks t)
    match skipBlanks rest with
    | '.' :: rest =>
      let (keys, rest) ← path? fuel rest
      return (key :: keys, rest)
    | rest => return ([key], rest)

/-! ## Tables -/

/-- How a table came to be: by a header of its own, by the header of a table inside it, or by a
dotted key. -/
inductive Origin where
  | header
  | implied
  | dotted
  deriving DecidableEq

inductive Node where
  | leaf (value : Value)
  | table (origin : Origin) (members : List (Text × Node))
  /-- Tables of one name, the last one first. -/
  | tables (items : List (List (Text × Node)))

abbrev Members := List (Text × Node)

def put (key : Text) (node : Node) (members : Members) : Members :=
  (key, node) :: members.filter (·.1 != key)

/-- Adds a value under a dotted key. `open_` tells whether the table at hand may take it: a table
reached by a dotted key only if dotted keys made it. -/
def insert (open_ : Bool) (key : Text) (value : Value) : List Text → Members → Option Members
  | [], members =>
    if open_ && (members.lookup key).isNone then some (put key (.leaf value) members) else none
  | part :: path, members =>
    match members.lookup part with
    | none => do return put part (.table .dotted (← insert true key value path [])) members
    | some (.table .dotted inner) => do
      return put part (.table .dotted (← insert true key value path inner)) members
    | some (.table .implied inner) => do
      return put part (.table .implied (← insert false key value path inner)) members
    | some (.tables (inner :: done)) => do
      return put part (.tables ((← insert false key value path inner) :: done)) members
    | _ => none

/-- Changes the entry at the end of a path of tables, which are made where they are missing. -/
def change (update : Option Node → Option Node) : List Text → Members → Option Members
  | [], _ => none
  | [key], members => do return put key (← update (members.lookup key)) members
  | part :: path, members =>
    match members.lookup part with
    | none => do return put part (.table .implied (← change update path [])) members
    | some (.table origin inner) => do
      return put part (.table origin (← change update path inner)) members
    | some (.tables (inner :: done)) => do
      return put part (.tables ((← change update path inner) :: done)) members
    | _ => none

/-- The members that a table has before its header. -/
def reopened? : Option Node → Option Members
  | none => some []
  | some (.table .implied members) => some members
  | _ => none

/-! ## Values -/

mutual

def Node.value : Node → Value
  | .leaf value => value
  | .table _ members => .table (memberValues members)
  | .tables items => .array (itemsBefore [] items)

def memberValues : List (Text × Node) → List (Text × Value)
  | [] => []
  | (key, node) :: rest => (key, node.value) :: memberValues rest

/-- Puts tables, the last one first, in front of others in their order. -/
def itemsBefore (later : List Value) : List (List (Text × Node)) → List Value
  | [] => later
  | members :: rest => itemsBefore (.table (memberValues members) :: later) rest

end

/-- What follows blanks, line ends and comments. -/
def skipComments : (inComment : Bool) → Text → Text
  | _, '\n' :: rest => skipComments false rest
  | _, '\r' :: '\n' :: rest => skipComments false rest
  | inComment, c :: rest =>
    if inComment then if isVisible c then skipComments true rest else c :: rest
    else if c = '#' then skipComments true rest
    else if isBlank c then skipComments false rest
    else c :: rest
  | _, [] => []

mutual

/-- A value with at most `depth` containers in one another. Of two steps one at least takes a
character, so that twice the length of the text is fuel enough. -/
def value? : (fuel depth : Nat) → Text → Option (Value × Text)
  | 0, _, _ => none
  | fuel + 1, depth, t =>
    match t, depth with
    | '[' :: rest, depth + 1 => do
      let (items, rest) ← items? fuel depth rest
      return (.array items, rest)
    | '\x7b' :: rest, depth + 1 => do
      match skipBlanks rest with
      | '\x7d' :: rest => return (.table [], rest)
      | rest =>
        let (members, rest) ← inline? fuel depth [] rest
        return (.table (memberValues members), rest)
    | '[' :: _, 0 => none
    | '\x7b' :: _, 0 => none
    | _, _ => scalar t

/-- Items of an array up to its bracket. -/
def items? : (fuel depth : Nat) → Text → Option (List Value × Text)
  | 0, _, _ => none
  | fuel + 1, depth, t =>
    match skipComments false t with
    | ']' :: rest => some ([], rest)
    | t => do
      let (item, rest) ← value? fuel depth t
      match skipComments false rest with
      | ',' :: rest =>
        let (items, rest) ← items? fuel depth rest
        return (item :: items, rest)
      | ']' :: rest => return ([item], rest)
      | _ => none

/-- Pairs of a table on one line, of which there is at least one, up to its brace. -/
def inline? : (fuel depth : Nat) → Members → Text → Option (Members × Text)
  | 0, _, _, _ => none
  | fuel + 1, depth, members, t => do
    let (path, rest) ← path? (deepest + 1) t
    let (value, rest) ← value? fuel depth (skipBlanks (← expect? '=' rest))
    if deepest < path.length then none
    else
      let members ← insert true (path.getLast?.getD []) value path.dropLast members
      match skipBlanks rest with
      | ',' :: rest => inline? fuel depth members rest
      | '\x7d' :: rest => return (members, rest)
      | _ => none

end

/-! ## Statements -/

/-- A comment, if there is one, and the end of a line or of the document. -/
def lineEnd? (t : Text) : Option Text :=
  let rest := match skipBlanks t with
    | '#' :: rest => rest.dropWhile isVisible
    | rest => rest
  match rest with
  | [] => some []
  | rest => newline? rest

structure Opened where
  path : List Text
  /-- Whether it is one of several of its name. -/
  isItem : Bool

structure State where
  root : Members
  /-- None at the start, where pairs belong to the document itself. -/
  opened : Option Opened
  members : Members

/-- Puts the table that is being written in its place. -/
def State.close (state : State) : Option Members :=
  match state.opened with
  | none => some state.members
  | some ⟨path, false⟩ => change (fun _ => some (.table .header state.members)) path state.root
  | some ⟨path, true⟩ =>
    change (fun
      | none => some (.tables [state.members])
      | some (.tables items) => some (.tables (state.members :: items))
      | _ => none) path state.root

/-- What a table of a document holds before its header, if it may be opened. -/
def membersAt? (path : List Text) (root : Members) : Option Members :=
  match path, root.lookup (path.head?.getD []) with
  | [], _ => none
  | [_], entry => reopened? entry
  | _ :: _ :: _, none => some []
  | _ :: next :: rest, some (.table _ inner) => membersAt? (next :: rest) inner
  | _ :: next :: rest, some (.tables (inner :: _)) => membersAt? (next :: rest) inner
  | _ :: _ :: _, _ => none
termination_by path.length

def State.openTable (state : State) (path : List Text) : Option State := do
  let root ← state.close
  return ⟨root, some ⟨path, false⟩, ← membersAt? path root⟩

def State.openItem (state : State) (path : List Text) : Option State := do
  return ⟨← state.close, some ⟨path, true⟩, []⟩

def State.add (state : State) (path : List Text) (value : Value) : Option State := do
  return { state with
    members := ← insert true (path.getLast?.getD []) value path.dropLast state.members }

/-- The path of a header and what follows its brackets. -/
def header? (closing : Text) (t : Text) : Option (List Text × Text) := do
  let (path, rest) ← path? (deepest + 1) t
  if deepest < path.length then none else return (path, ← Text.after? closing rest)

/-- One statement of a text of at most `length` characters. -/
def statement? (length : Nat) (state : State) (t : Text) : Option (State × Text) :=
  match t with
  | '[' :: '[' :: rest => do
    let (path, rest) ← header? "]]" rest
    return (← state.openItem path, ← lineEnd? rest)
  | '[' :: rest => do
    let (path, rest) ← header? "]" rest
    return (← state.openTable path, ← lineEnd? rest)
  | _ => do
    let (path, rest) ← path? (deepest + 1) t
    let (value, rest) ← value? (2 * length + 1) deepest (skipBlanks (← expect? '=' rest))
    if deepest < path.length then none else return (← state.add path value, ← lineEnd? rest)

/-- Statements, comments and empty lines up to the end. Each takes a character at least. -/
def statements : (fuel : Nat) → State → Text → Option State
  | 0, _, _ => none
  | fuel + 1, state, t =>
    match skipBlanks t with
    | [] => some state
    | '#' :: rest => do statements fuel state (← lineEnd? ('#' :: rest))
    | c :: rest =>
      match newline? (c :: rest) with
      | some rest => statements fuel state rest
      | none => do
        let (state, rest) ← statement? (fuel + 1) state (c :: rest)
        statements fuel state rest

/-- The table that a document spells. A byte order mark in front of it does not count. -/
def parse? (document : Text) : Option Value := do
  let t := (Text.after? ['\ufeff'] document).getD document
  let state ← statements (t.length + 1) ⟨[], none, []⟩ t
  return .table (memberValues (← state.close))

end Critique.Toml
