import Critique.Files.Path
import Critique.Text.Utf8

/-!
# File trees

Folders and files as the program finds them. A path is followed step by step: a part that follows
a file leads nowhere, and two dots lead to the folder above. Names and paths have a longest size,
and no path holds the character zero, which would end it.
-/

namespace Critique

open Utf8 (Bytes)

inductive Tree where
  | file (content : Bytes)
  | folder (entries : List (Text × Tree))
  deriving Inhabited

inductive AccessFault where
  | missing
  | notFolder
  | isFolder
  | tooLong
  | holdsZero
  | notText
  deriving DecidableEq, Repr

def AccessFault.message : AccessFault → Text
  | .missing => "No such file or directory (os error 2)"
  | .notFolder => "Not a directory (os error 20)"
  | .isFolder => "Is a directory (os error 21)"
  | .tooLong => "File name too long (os error 36)"
  | .holdsZero => "file name contained an unexpected NUL byte"
  | .notText => "stream did not contain valid UTF-8"

namespace Tree

/-- The size of the longest name of an entry, in bytes. -/
def longestName : Nat := 255

/-- The size of the longest path, in bytes. -/
def longestPath : Nat := 4095

/-- Follows the pieces of a path. `above` holds the folders on the way, the nearest first; the
root is its own parent. -/
def follow (above : List Tree) (tree : Tree) : List Text → Except AccessFault Tree
  | [] => .ok tree
  | piece :: rest =>
    match tree with
    | .file _ => .error .notFolder
    | .folder entries =>
      if piece.isEmpty || piece == ['.'] then follow above tree rest
      else if piece == ['.', '.'] then
        match above with
        | up :: above => follow above up rest
        | [] => follow [] tree rest
      else if Utf8.isLonger longestName piece then .error .tooLong
      else match entries.lookup piece with
        | some inner => follow (tree :: above) inner rest
        | none => .error .missing

/-- What stands at a path, told from a folder. -/
def at? (tree : Tree) (folder path : Text) : Except AccessFault Tree :=
  if path.any (· == '\x00') then .error .holdsZero
  else if path.isEmpty then .error .missing
  else if Utf8.isLonger longestPath path then .error .tooLong
  else follow [] tree (Path.pieces (Path.join folder path))

def isFile (tree : Tree) (folder path : Text) : Bool :=
  match tree.at? folder path with
  | .ok (.file _) => true
  | _ => false

def read (tree : Tree) (folder path : Text) : Except AccessFault Text :=
  match tree.at? folder path with
  | .ok (.file content) =>
    match Utf8.decode? content with
    | some t => .ok t
    | none => .error .notText
  | .ok (.folder _) => .error .isFolder
  | .error fault => .error fault

/-- The entries of a folder; a file has none. -/
def entries : Tree → List (Text × Tree)
  | .file _ => []
  | .folder entries => entries

/-- What stands in a folder under a name, or an empty folder. -/
def entryAt (tree : Tree) (name : Text) : Tree := (tree.entries.lookup name).getD (.folder [])

/-- A folder with something put under a name. -/
def withEntry (tree : Tree) (name : Text) (entry : Tree) : Tree :=
  .folder (tree.entries.filter (·.1 != name) ++ [(name, entry)])

/-- Puts something at a path whose pieces are given. Folders on the way are made, and an empty
folder leaves what is there as it is. -/
def plant (tree leaf : Tree) : List Text → Tree
  | [] =>
    match tree, leaf with
    | .folder (entry :: entries), .folder [] => .folder (entry :: entries)
    | _, leaf => leaf
  | piece :: rest =>
    if piece.isEmpty || piece == ['.'] then plant tree leaf rest
    else tree.withEntry piece (plant (tree.entryAt piece) leaf rest)

mutual

/-- Paths of all files in a tree that stands at a path. -/
def filesAt (path : Text) : Tree → List Text
  | .file _ => [path]
  | .folder entries => filesIn path entries

def filesIn (path : Text) : List (Text × Tree) → List Text
  | [] => []
  | (name, tree) :: rest => filesAt (Path.join path name) tree ++ filesIn path rest

end

end Tree

end Critique
