import Critique.Assessment
import Critique.Files.Tree
import Critique.Language

/-!
# Assessments of files
-/

namespace Critique

structure FileAssessment where
  path : Text
  /-- Canonical name of the language it was read as. -/
  language : Text
  assessment : Assessment
  deriving DecidableEq, Repr

inductive FileFault where
  | unknownLanguage (path : Text)
  | unreadable (path : Text) (reason : AccessFault)
  deriving DecidableEq, Repr

def FileFault.message : FileFault → Text
  | .unknownLanguage path => "cannot infer language of " ++ path
  | .unreadable path reason => "reading " ++ path ++ ": " ++ reason.message

def Language.ofPath? (path : Text) : Option Text :=
  (Path.extension? path).bind Language.ofExtension?

/-- The language that is named, or else the one that the extension tells. -/
def Language.choose (named : Option Text) (path : Text) : Option Text :=
  match named with
  | some raw => some (Language.canonical raw)
  | none => Language.ofPath? path

/-- Assesses code in a language given by any of its names. -/
def Catalog.assessNamed (catalog : Catalog) (kind : Kind) (code raw : Text) : Assessment :=
  catalog.assess kind code (Language.canonical raw)

/-- Assesses the file at a path, told from a folder. -/
def Catalog.assessFile (catalog : Catalog) (kind : Kind) (tree : Tree) (folder : Text)
    (language : Option Text) (path : Text) : Except FileFault FileAssessment :=
  match Language.choose language path with
  | none => .error (.unknownLanguage path)
  | some language =>
    match tree.read folder path with
    | .error reason => .error (.unreadable path reason)
    | .ok code => .ok ⟨path, language, catalog.assess kind code language⟩

/-- Numbers of findings over several files. -/
structure Summary where
  high : Nat
  medium : Nat
  low : Nat
  filesWithIssues : Nat
  totalFiles : Nat
  deriving DecidableEq, Repr

namespace Summary

def total (summary : Summary) : Nat := summary.high + summary.medium + summary.low

def count (files : List FileAssessment) (severity : Severity) : Nat :=
  (files.map fun file => (file.assessment.withSeverity severity).length).foldr (· + ·) 0

def ofFiles (files : List FileAssessment) : Summary where
  high := count files .high
  medium := count files .medium
  low := count files .low
  filesWithIssues := files.countP fun file => !file.assessment.findings.isEmpty
  totalFiles := files.length

end Summary

end Critique
