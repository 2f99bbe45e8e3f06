import Critique.Catalog.Python
import Critique.Catalog.Script
import Critique.Catalog.Shared
import Critique.Catalog.Structure

/-!
# The catalog

Rules in the order of reports. A catalog without some rules keeps the order of the others.
-/

namespace Critique

abbrev Catalog := List Rule

namespace Catalog

def all : Catalog := [
  mutableDefaultArgument, bareExcept, globalVariableMisuse, wildcardImport, printDebugging,
  varUsage, looseEquality, withStatement, noStrictMode, consoleLog, evalUsage, emptyCatch,
  unwrapUsage, unboundedGets, hardcodedSecret, todoComment, recursion, nestedLoops,
  deepConditionals, magicNumbers, duplicatedCode, deepNesting, longMethod, longLines]

def get? (catalog : Catalog) (id : Text) : Option Rule := catalog.find? (·.id == id)

def applicable (catalog : Catalog) (kind : Kind) (language : Text) : List Rule :=
  catalog.filter (·.appliesTo kind language)

def without (catalog : Catalog) (ids : List Text) : Catalog :=
  catalog.filter fun rule => !ids.contains rule.id

/-- The ids in a list that name no rule, as often as they stand there. -/
def unknown (catalog : Catalog) (ids : List Text) : List Text :=
  ids.filter fun id => (catalog.get? id).isNone

end Catalog

end Critique
