import Critique.Rule.Basic

/-!
# Rules for JavaScript and TypeScript
-/

namespace Critique.Catalog

def scriptLanguages : List Text := ["javascript", "typescript"]

def lacksStrictMode (code : Text) : Bool := !Text.contains "use strict" code

open Pattern in
def varUsagePattern : Pattern :=
  inOrder [boundary, exactly "var", blanks, name]

def varUsage : Rule where
  id := "var_usage"
  name := "var Declaration"
  languages := scriptLanguages
  kinds := [.review, .bugs]
  matcher := .pattern varUsagePattern
  severity := .medium
  dimension := .bestPractices
  description := "var has function scope and hoisting issues, use let/const instead"
  rationale :=
    "var declarations are hoisted to the top of the function, so a variable can be read before " ++
    "it is assigned and leaks out of blocks."
  sample := some (Text.joinLines [
    "// BAD:",
    "var x = 10;",
    "",
    "// GOOD:",
    "let x = 10;",
    "const y = 20;"])

open Pattern in
def looseEqualityPattern : Pattern :=
  inOrder [one (fun c => !(c == '=' || c == '!' || c == '<' || c == '>')), exactly "==",
    one (· != '=')]

def looseEquality : Rule where
  id := "loose_equality"
  name := "Loose Equality"
  languages := scriptLanguages
  kinds := [.review, .bugs]
  matcher := .pattern looseEqualityPattern
  severity := .medium
  dimension := .bestPractices
  description := "== performs type coercion which can cause unexpected behavior"
  rationale :=
    "Loose equality converts operands before comparing, so '0' == 0 and null == undefined are " ++
    "both true."
  sample := some (Text.joinLines [
    "// BAD:",
    "if (x == null) \x7b\x7d",
    "",
    "// GOOD:",
    "if (x === null || x === undefined) \x7b\x7d"])

open Pattern in
def withStatementPattern : Pattern :=
  inOrder [boundary, exactly "with", gap, exactly "("]

def withStatement : Rule where
  id := "with_statement"
  name := "with Statement"
  languages := ["javascript"]
  kinds := Kind.all
  matcher := .pattern withStatementPattern
  severity := .medium
  dimension := .efficiency
  description := "with makes scope resolution ambiguous and defeats engine optimizations"
  rationale :=
    "Identifiers inside a with block may resolve to the object or the outer scope depending on " ++
    "runtime data."
  sample := some (Text.joinLines [
    "// BAD:",
    "with (obj) \x7b total = a + b; \x7d",
    "",
    "// GOOD:",
    "const total = obj.a + obj.b;"])

def noStrictMode : Rule where
  id := "no_strict_mode"
  name := "Missing Strict Mode"
  languages := ["javascript"]
  kinds := [.review, .optimize]
  matcher := .ofText lacksStrictMode
  severity := .low
  dimension := .bestPractices
  description := "Script does not opt into strict mode"
  rationale :=
    "Strict mode turns silent mistakes into errors and lets engines optimize more aggressively."
  sample := some (Text.joinLines [
    "'use strict';",
    "",
    "function main() \x7b",
    "  // ...",
    "\x7d"])

open Pattern in
def consoleLogPattern : Pattern :=
  inOrder [boundary, exactly "console.log", gap, exactly "("]

def consoleLog : Rule where
  id := "console_log"
  name := "Leftover console.log"
  languages := scriptLanguages
  kinds := [.review]
  matcher := .pattern consoleLogPattern
  severity := .low
  dimension := .bestPractices
  description := "console.log calls left in the code"
  rationale := "Debug output leaks into production consoles and slows hot paths."
  sample := none

end Critique.Catalog
