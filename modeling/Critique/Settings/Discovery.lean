import Critique.Files.Tree
import Critique.Settings.File

/-!
# Finding the settings file

The nearest settings file in a folder and those above it holds the settings.
-/

namespace Critique.Settings

def fileName : Text := "code-sensei.toml"

inductive Failure where
  | unreadable (path : Text)
  | ungrammatical (path : Text)
  deriving DecidableEq, Repr

def Failure.message : Failure → Text
  | .unreadable path => "reading " ++ path
  | .ungrammatical path => "parsing " ++ path

/-- A folder and those above it, `fuel` of them at most, all written backwards. -/
def foldersFrom : (fuel : Nat) → (backwards : Text) → List Text
  | 0, _ => []
  | fuel + 1, backwards =>
    backwards :: match Path.above? backwards with
      | some above => foldersFrom fuel above
      | none => []

/-- A folder and those above it, as far as their paths are not too long. A folder above has a
shorter path, so the length of the path bounds the number of folders. -/
def folders (folder : Text) : List Text :=
  ((foldersFrom (folder.length + 1) folder.reverse).filter
    (!Utf8.isLonger Tree.longestPath ·)).map List.reverse

/-- Where the settings of a folder may stand, the nearest place first. -/
def candidates (folder : Text) : List Text := (folders folder).map (Path.join · fileName)

def nearest? (tree : Tree) (folder : Text) : Option Text :=
  (candidates folder).find? (tree.isFile ['/'])

/-- The settings file nearest to a folder, or to the folder of a file. -/
def find? (tree : Tree) (start : Text) : Option Text :=
  if tree.isFile ['/'] start then (Path.parent? start).bind (nearest? tree)
  else nearest? tree start

/-- Reads a settings file; its path is told from a folder. -/
def load (tree : Tree) (folder path : Text) : Except Failure Settings :=
  match tree.read folder path with
  | .error _ => .error (.unreadable path)
  | .ok document =>
    match Settings.parse? document with
    | some settings => .ok { settings with source := some path }
    | none => .error (.ungrammatical path)

/-- The settings of a file that is named, or else of the one nearest to the start. -/
def discover (tree : Tree) (folder : Text) (named : Option Text) (start : Text) :
    Except Failure Settings :=
  match named, find? tree start with
  | some path, _ => load tree folder path
  | none, some path => load tree folder path
  | none, none => .ok .default

end Critique.Settings
