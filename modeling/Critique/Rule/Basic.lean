import Critique.Metrics

/-!
# Rules

A rule looks for one problem in a submission. It carries what a report says about the problem and
which quality dimension pays for it.
-/

namespace Critique

/-- What a caller asks about a submission. -/
inductive Kind where
  | review
  | bugs
  | optimize
  deriving DecidableEq, Repr

namespace Kind

def all : List Kind := [.review, .bugs, .optimize]

def slug : Kind → Text
  | .review => "review"
  | .bugs => "bugs"
  | .optimize => "optimize"

def ofSlug? (slug : Text) : Option Kind := all.find? (·.slug == slug)

def title : Kind → Text
  | .review => "Code Review"
  | .bugs => "Bug Analysis"
  | .optimize => "Code Optimization"

/-- What a report made from the rules alone names as its model. -/
def heuristicModel : Kind → Text
  | .optimize => "static_analyzer"
  | .review | .bugs => "pattern_matcher"

end Kind

inductive Severity where
  | low
  | medium
  | high
  deriving DecidableEq, Repr

namespace Severity

/-- Points that a finding takes from its dimension. -/
def penalty : Severity → Nat
  | .low => 5
  | .medium => 10
  | .high => 20

def label : Severity → Text
  | .low => "LOW"
  | .medium => "MEDIUM"
  | .high => "HIGH"

end Severity

/-- The four qualities that are scored. -/
inductive Dimension where
  | maintainability
  | readability
  | efficiency
  | bestPractices
  deriving DecidableEq, Repr

namespace Dimension

def all : List Dimension := [.maintainability, .readability, .efficiency, .bestPractices]

def slug : Dimension → Text
  | .maintainability => "maintainability"
  | .readability => "readability"
  | .efficiency => "efficiency"
  | .bestPractices => "best_practices"

end Dimension

/-- How a rule decides. A check of the text or of the metrics may break down, and then answers
`none`. -/
inductive Matcher where
  | pattern (pattern : Pattern)
  | text (check : Text → Option Bool)
  | metric (check : Metrics → Option Bool)

namespace Matcher

/-- The decision about a submission with these metrics, or `none` if the check breaks down. -/
def verdict (code : Text) (metrics : Metrics) : Matcher → Option Bool
  | .pattern p => some (p.occursIn code)
  | .text check => check code
  | .metric check => check metrics

/-- A check of the text that always comes to a decision. -/
def ofText (holds : Text → Bool) : Matcher := .text fun code => some (holds code)

/-- A check of the metrics that always comes to a decision. -/
def ofMetric (holds : Metrics → Bool) : Matcher := .metric fun metrics => some (holds metrics)

def family : Matcher → Text
  | .pattern _ => "pattern"
  | .text _ => "text"
  | .metric _ => "metric"

end Matcher

structure Rule where
  id : Text
  name : Text
  /-- Canonical names of the languages it applies to; none means all of them. -/
  languages : List Text
  kinds : List Kind
  matcher : Matcher
  severity : Severity
  dimension : Dimension
  description : Text
  rationale : Text
  /-- Code before and after, for reports. -/
  sample : Option Text

namespace Rule

def inScope (rule : Rule) (language : Text) : Bool :=
  rule.languages.isEmpty || rule.languages.contains language

def appliesTo (rule : Rule) (kind : Kind) (language : Text) : Bool :=
  rule.kinds.contains kind && rule.inScope language

end Rule

end Critique
