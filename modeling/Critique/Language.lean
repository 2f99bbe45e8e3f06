import Critique.Text.Casing

/-!
# Languages

A language is known by a canonical name. Callers write it as they like; files tell it by their
extension.
-/

namespace Critique.Language

/-- Other spellings, in small letters, and the canonical names they stand for. -/
def aliases : List (Text × Text) := [
  ("js", "javascript"), ("node", "javascript"), ("nodejs", "javascript"), ("jsx", "javascript"),
  ("ts", "typescript"), ("tsx", "typescript"), ("py", "python"), ("python3", "python"),
  ("golang", "go"), ("c++", "cpp"), ("cxx", "cpp"), ("c#", "csharp"), ("cs", "csharp"),
  ("rs", "rust"), ("rb", "ruby"), ("kt", "kotlin")]

def unalias (name : Text) : Text := (aliases.lookup name).getD name

/-- A name without the blanks around it, in small letters, with other spellings replaced. -/
def canonical (raw : Text) : Text := unalias (Text.lower (Text.trim raw))

def extensions : List (Text × Text) := [
  ("py", "python"), ("js", "javascript"), ("mjs", "javascript"), ("cjs", "javascript"),
  ("jsx", "javascript"), ("ts", "typescript"), ("tsx", "typescript"), ("go", "go"), ("rs", "rust"),
  ("java", "java"), ("c", "c"), ("h", "c"), ("cc", "cpp"), ("cpp", "cpp"), ("cxx", "cpp"),
  ("hpp", "cpp"), ("cs", "csharp"), ("rb", "ruby"), ("php", "php"), ("kt", "kotlin"),
  ("swift", "swift")]

/-- The language of files with an extension, whose ASCII letters may be capitals. -/
def ofExtension? (extension : Text) : Option Text := extensions.lookup (extension.map Char.toLower)

end Critique.Language
