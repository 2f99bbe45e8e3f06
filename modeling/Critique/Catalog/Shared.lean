import Critique.Rule.Basic

/-!
# Rules that several languages share
-/

namespace Critique.Catalog

def catchLanguages : List Text :=
  ["java", "javascript", "typescript", "csharp", "kotlin", "php", "cpp"]

def isStringQuote (c : Char) : Bool := c == '"' || c == '\x27'

/-- A letter in either case. The Kelvin sign counts as a k and the long s as an s. -/
def isLetter (letter c : Char) : Bool :=
  c.toLower == letter || (letter == 'k' && c == '\u212a') || (letter == 's' && c == '\u017f')

open Pattern in
def eitherCase (t : Text) : Pattern :=
  t.foldr (fun letter rest => seq (one (isLetter letter)) rest) nothing

open Pattern in
def secretName : Pattern :=
  first [inOrder [eitherCase "api", maybe (exactly "_"), eitherCase "key"], eitherCase "secret",
    eitherCase "password", eitherCase "passwd", eitherCase "token"]

open Pattern in
def evalUsagePattern : Pattern :=
  inOrder [alt (here .textStart) (one fun c => !(Text.isWord c || c == '.')),
    words ["eval", "exec"], gap, exactly "("]

def evalUsage : Rule where
  id := "eval_usage"
  name := "Dynamic Code Evaluation"
  languages := ["python", "javascript", "typescript", "php", "ruby"]
  kinds := Kind.all
  matcher := .pattern evalUsagePattern
  severity := .high
  dimension := .bestPractices
  description := "eval/exec executes arbitrary strings as code"
  rationale :=
    "Evaluating strings opens the door to code injection and prevents the runtime from " ++
    "optimizing the surrounding function."
  sample := some (Text.joinLines [
    "// BAD:",
    "const value = eval(\"obj.\" + key);",
    "",
    "// GOOD:",
    "const value = obj[key];"])

open Pattern in
def emptyCatchPattern : Pattern :=
  inOrder [exactly "catch", gap, maybe (inOrder [exactly "(", many (· != ')'), exactly ")"]), gap,
    exactly "\x7b", gap, exactly "\x7d"]

def emptyCatch : Rule where
  id := "empty_catch"
  name := "Empty Catch Block"
  languages := catchLanguages
  kinds := [.review, .bugs]
  matcher := .pattern emptyCatchPattern
  severity := .medium
  dimension := .bestPractices
  description := "Exceptions are caught and silently discarded"
  rationale :=
    "An empty handler turns failures into wrong results with no trace of what went wrong."
  sample := some (Text.joinLines [
    "// BAD:",
    "try \x7b save(); \x7d catch (e) \x7b\x7d",
    "",
    "// GOOD:",
    "try \x7b save(); \x7d catch (e) \x7b logger.error(\"save failed\", e); throw e; \x7d"])

open Pattern in
def unwrapUsagePattern : Pattern :=
  inOrder [exactly ".", words ["unwrap", "expect"], gap, exactly "("]

def unwrapUsage : Rule where
  id := "unwrap_usage"
  name := "unwrap/expect in Non-Test Code"
  languages := ["rust"]
  kinds := [.review, .bugs]
  matcher := .pattern unwrapUsagePattern
  severity := .medium
  dimension := .bestPractices
  description := "unwrap and expect panic on None/Err"
  rationale :=
    "A panic aborts the current thread; propagating the error with ? lets the caller decide how " ++
    "to recover."
  sample := some (Text.joinLines [
    "// BAD:",
    "let port: u16 = value.parse().unwrap();",
    "",
    "// GOOD:",
    "let port: u16 = value.parse()?;"])

open Pattern in
def unboundedGetsPattern : Pattern :=
  inOrder [boundary, exactly "gets", gap, exactly "("]

def unboundedGets : Rule where
  id := "unsafe_gets"
  name := "Unbounded gets()"
  languages := ["c", "cpp"]
  kinds := [.review, .bugs]
  matcher := .pattern unboundedGetsPattern
  severity := .high
  dimension := .bestPractices
  description := "gets() cannot limit input length and overflows its buffer"
  rationale := "There is no way to call gets() safely; it was removed from C11 for this reason."
  sample := some (Text.joinLines [
    "// BAD:",
    "gets(buf);",
    "",
    "// GOOD:",
    "fgets(buf, sizeof buf, stdin);"])

open Pattern in
def hardcodedSecretPattern : Pattern :=
  inOrder [boundary, secretName, boundary, gap, one (fun c => c == ':' || c == '='), gap,
    one isStringQuote, atLeast 4 (!isStringQuote ·), one isStringQuote]

def hardcodedSecret : Rule where
  id := "hardcoded_secret"
  name := "Hardcoded Secret"
  languages := []
  kinds := [.review, .bugs]
  matcher := .pattern hardcodedSecretPattern
  severity := .high
  dimension := .bestPractices
  description := "Credentials appear to be hardcoded in source"
  rationale := "Secrets committed to source end up in version history and every copy of the code."
  sample := some (Text.joinLines [
    "# BAD:",
    "api_key = \"sk-live-1234\"",
    "",
    "# GOOD:",
    "api_key = os.environ[\"API_KEY\"]"])

open Pattern in
def todoCommentPattern : Pattern :=
  inOrder [words ["//", "#"], gap, words ["TODO", "FIXME", "HACK", "XXX"], boundary]

def todoComment : Rule where
  id := "todo_comment"
  name := "Unresolved TODO"
  languages := []
  kinds := [.review]
  matcher := .pattern todoCommentPattern
  severity := .low
  dimension := .maintainability
  description := "Code contains unresolved TODO/FIXME markers"
  rationale :=
    "Markers document known gaps; each one is unfinished work a reader has to keep in mind."
  sample := none

end Critique.Catalog
