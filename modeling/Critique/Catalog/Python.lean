import Critique.Rule.Basic

/-!
# Rules for Python
-/

namespace Critique.Catalog

open Pattern in
def mutableDefaultArgumentPattern : Pattern :=
  inOrder [exactly "def", blanks, run Text.isWord, gap, exactly "(", many (· != ')'), exactly "=",
    gap, one (fun c => c == '[' || c == '\x7b'), many (· != ')'), exactly ")"]

def mutableDefaultArgument : Rule where
  id := "mutable_default_argument"
  name := "Mutable Default Argument"
  languages := ["python"]
  kinds := [.review, .bugs]
  matcher := .pattern mutableDefaultArgumentPattern
  severity := .high
  dimension := .bestPractices
  description := "Mutable default arguments are shared across all function calls"
  rationale :=
    "Python evaluates default arguments once when the function is defined, not when it is " ++
    "called, so the same list or dict is reused by every call."
  sample := some (Text.joinLines [
    "# BAD:",
    "def add_item(item, items=[]):",
    "    items.append(item)",
    "    return items",
    "",
    "# GOOD:",
    "def add_item(item, items=None):",
    "    if items is None:",
    "        items = []",
    "    items.append(item)",
    "    return items"])

open Pattern in
def bareExceptPattern : Pattern :=
  inOrder [here .lineStart, gap, exactly "except", gap, exactly ":"]

def bareExcept : Rule where
  id := "bare_except"
  name := "Bare Except"
  languages := ["python"]
  kinds := Kind.all
  matcher := .pattern bareExceptPattern
  severity := .medium
  dimension := .bestPractices
  description := "Bare except catches all exceptions including KeyboardInterrupt and SystemExit"
  rationale :=
    "Catching everything hides bugs and can stop the program from shutting down when asked to."
  sample := some (Text.joinLines [
    "# BAD:",
    "try:",
    "    risky_operation()",
    "except:",
    "    pass",
    "",
    "# GOOD:",
    "try:",
    "    risky_operation()",
    "except ValueError as e:",
    "    logger.error(f\"Operation failed: \x7be\x7d\")"])

open Pattern in
def globalVariableMisusePattern : Pattern :=
  inOrder [here .lineStart, gap, exactly "global", blanks, run Text.isWord]

def globalVariableMisuse : Rule where
  id := "global_variable_misuse"
  name := "Global Variable Mutation"
  languages := ["python"]
  kinds := [.review, .bugs]
  matcher := .pattern globalVariableMisusePattern
  severity := .medium
  dimension := .maintainability
  description := "Global variables make code hard to test, debug, and maintain"
  rationale :=
    "Mutating module state from inside functions creates hidden dependencies between otherwise " ++
    "unrelated calls."
  sample := some (Text.joinLines [
    "# BAD:",
    "counter = 0",
    "",
    "def increment():",
    "    global counter",
    "    counter += 1",
    "",
    "# GOOD:",
    "class Counter:",
    "    def __init__(self):",
    "        self.value = 0",
    "",
    "    def increment(self):",
    "        self.value += 1"])

open Pattern in
def wildcardImportPattern : Pattern :=
  inOrder [here .lineStart, gap, exactly "from", blanks, run (fun c => Text.isWord c || c == '.'),
    blanks, exactly "import", blanks, exactly "*"]

def wildcardImport : Rule where
  id := "wildcard_import"
  name := "Wildcard Import"
  languages := ["python"]
  kinds := Kind.all
  matcher := .pattern wildcardImportPattern
  severity := .low
  dimension := .readability
  description := "Wildcard imports pollute the namespace and can cause name conflicts"
  rationale :=
    "Readers cannot tell where a name comes from, and later imports may silently shadow earlier " ++
    "ones."
  sample := some (Text.joinLines [
    "# BAD:",
    "from module import *",
    "",
    "# GOOD:",
    "from module import specific_function, SpecificClass"])

open Pattern in
def printDebuggingPattern : Pattern :=
  inOrder [here .lineStart, gap, exactly "print", gap, exactly "("]

def printDebugging : Rule where
  id := "print_debugging"
  name := "Print Debugging"
  languages := ["python"]
  kinds := [.review]
  matcher := .pattern printDebuggingPattern
  severity := .low
  dimension := .bestPractices
  description := "print() calls used for diagnostics"
  rationale :=
    "Prints cannot be filtered or silenced; the logging module gives levels and destinations."
  sample := some (Text.joinLines [
    "# BAD:",
    "print(\"value is\", value)",
    "",
    "# GOOD:",
    "import logging",
    "logger = logging.getLogger(__name__)",
    "logger.debug(\"value is %s\", value)"])

end Critique.Catalog
