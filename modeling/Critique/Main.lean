import Critique.CommandLine.Run

/-!
# The program

Reads what the command looks at, runs it on that and prints what comes of it.
-/

namespace Critique.Main

/-- Whether an entry of a folder is a file or a folder itself, and no link to one. -/
def isOwn (entry : IO.FS.DirEntry) : IO Bool := do
  match (← entry.path.symlinkMetadata).type with
  | .file | .dir => return true
  | .symlink | .other => return false

/-- What stands at a path, with all that is in it. Links in a folder are not followed. What cannot
be read is left out. -/
partial def snapshot (path : String) : IO (Option Tree) := do
  try
    let place ← IO.FS.realPath path
    if ← place.isDir then
      let mut entries := []
      for entry in ← place.readDir do
        if ← isOwn entry then
          if let some tree ← snapshot entry.path.toString then
            entries := (entry.fileName.toList, tree) :: entries
      return some (.folder entries)
    else return some (.file (← IO.FS.readBinFile place).toList)
  catch _ => return none

def isFolder (path : String) : IO Bool := do
  try (← IO.FS.realPath path).isDir catch _ => return false

/-- The paths of the folders that a path leads through. -/
def leading (path : Text) : List Text :=
  let pieces := Path.pieces path
  (List.range pieces.length).map fun n => Text.joinWith ['/'] (pieces.take n) ++ ['/']

/-- Adds what stands at an absolute path to a tree. -/
def addPlace (tree : Tree) (path : Text) : IO Tree := do
  let mut tree := tree
  for folder in leading path do
    if ← isFolder (String.ofList folder) then
      tree := tree.plant (.folder []) (Path.steps folder)
  match ← snapshot (String.ofList path) with
  | some leaf => return tree.plant leaf (Path.steps path)
  | none => return tree

def surroundings (words : List Text) : IO CommandLine.Surroundings := do
  let folder := (← IO.currentDir).toString.toList
  let mut tree := Tree.folder []
  for place in CommandLine.places folder words do
    tree ← addPlace tree (Path.join folder place)
  let mut known := []
  for name in CommandLine.variableNames do
    if let some value ← IO.getEnv (String.ofList name) then
      known := (name, value.toList) :: known
  let values := known
  return { tree, folder, environment := fun name => values.lookup name }

end Critique.Main

open Critique in
def main (arguments : List String) : IO UInt32 := do
  let words := arguments.map String.toList
  let outcome := CommandLine.run (← Main.surroundings words) words
  IO.print (String.ofList outcome.output)
  for complaint in outcome.complaints do
    IO.eprintln (String.ofList complaint)
  return outcome.exit.toUInt32
