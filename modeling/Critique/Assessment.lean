import Critique.Catalog.All

/-!
# Assessment

What the rules of a catalog find in a submission, and the scores and the risk that follow from it.
-/

namespace Critique

/-- A rule that matched, without its matcher and scope. -/
structure Finding where
  ruleId : Text
  name : Text
  severity : Severity
  dimension : Dimension
  description : Text
  rationale : Text
  sample : Option Text
  deriving DecidableEq, Repr

def Rule.finding (rule : Rule) : Finding where
  ruleId := rule.id
  name := rule.name
  severity := rule.severity
  dimension := rule.dimension
  description := rule.description
  rationale := rule.rationale
  sample := rule.sample

def Finding.summary (finding : Finding) : Text :=
  finding.severity.label ++ " [" ++ finding.ruleId ++ "] " ++ finding.description

/-- Points from 0 to 100. -/
structure Scores where
  maintainability : Nat
  readability : Nat
  efficiency : Nat
  bestPractices : Nat
  deriving DecidableEq, Repr

namespace Scores

def full : Nat := 100

def penalty (findings : List Finding) (dimension : Dimension) : Nat :=
  ((findings.filter (·.dimension = dimension)).map (·.severity.penalty)).foldr (· + ·) 0

def score (findings : List Finding) (dimension : Dimension) : Nat :=
  full - penalty findings dimension

def ofFindings (findings : List Finding) : Scores where
  maintainability := score findings .maintainability
  readability := score findings .readability
  efficiency := score findings .efficiency
  bestPractices := score findings .bestPractices

def get (scores : Scores) : Dimension → Nat
  | .maintainability => scores.maintainability
  | .readability => scores.readability
  | .efficiency => scores.efficiency
  | .bestPractices => scores.bestPractices

/-- The mean of the dimensions, a half rounded up. -/
def overall (scores : Scores) : Nat :=
  (scores.maintainability + scores.readability + scores.efficiency + scores.bestPractices + 2) / 4

def gradeOf (overall : Nat) : Char :=
  if 90 ≤ overall then 'A'
  else if 80 ≤ overall then 'B'
  else if 70 ≤ overall then 'C'
  else if 60 ≤ overall then 'D'
  else 'F'

def grade (scores : Scores) : Char := gradeOf scores.overall

end Scores

/-- `unknown` where the rules could not be evaluated. -/
inductive Risk.Level where
  | unknown
  | low
  | medium
  | high
  deriving DecidableEq, Repr

def Risk.Level.label : Risk.Level → Text
  | .unknown => "UNKNOWN"
  | .low => "LOW"
  | .medium => "MEDIUM"
  | .high => "HIGH"

def Risk.Level.rank : Risk.Level → Nat
  | .unknown => 0
  | .low => 1
  | .medium => 2
  | .high => 3

structure Risk where
  /-- Findings of high severity. -/
  critical : Nat
  /-- All other findings. -/
  warnings : Nat
  level : Risk.Level
  deriving DecidableEq, Repr

namespace Risk

def total (risk : Risk) : Nat := risk.critical + risk.warnings

def levelOf (critical warnings : Nat) : Level :=
  if 0 < critical then .high else if 0 < warnings then .medium else .low

def ofFindings (findings : List Finding) : Risk :=
  let critical := findings.countP (·.severity = .high)
  let warnings := findings.countP (·.severity ≠ .high)
  ⟨critical, warnings, levelOf critical warnings⟩

def unknown : Risk := ⟨0, 0, .unknown⟩

end Risk

structure Assessment where
  metrics : Metrics
  findings : List Finding
  deriving DecidableEq, Repr

namespace Assessment

def scores (assessment : Assessment) : Scores := .ofFindings assessment.findings

def risk (assessment : Assessment) : Risk := .ofFindings assessment.findings

def withSeverity (assessment : Assessment) (severity : Severity) : List Finding :=
  assessment.findings.filter (·.severity = severity)

def ruleIds (assessment : Assessment) : List Text := assessment.findings.map (·.ruleId)

def hasFinding (assessment : Assessment) (id : Text) : Bool :=
  assessment.findings.any (·.ruleId == id)

end Assessment

namespace Catalog

/-- The rules that are applicable to code with these metrics, each with its verdict. -/
def verdicts (catalog : Catalog) (kind : Kind) (code language : Text) (metrics : Metrics) :
    List (Rule × Option Bool) :=
  (catalog.applicable kind language).map fun rule => (rule, rule.matcher.verdict code metrics)

def findings (verdicts : List (Rule × Option Bool)) : List Finding :=
  (verdicts.filter (·.2 == some true)).map (·.1.finding)

/-- Assesses code in a language given by its canonical name. A check that breaks down finds
nothing. -/
def assess (catalog : Catalog) (kind : Kind) (code language : Text) : Assessment :=
  let metrics := Metrics.ofCode code
  ⟨metrics, findings (catalog.verdicts kind code language metrics)⟩

/-- The assessment, unless the check of an applicable rule breaks down. -/
def assess? (catalog : Catalog) (kind : Kind) (code language : Text) : Option Assessment :=
  let metrics := Metrics.ofCode code
  let verdicts := catalog.verdicts kind code language metrics
  if verdicts.any (·.2.isNone) then none else some ⟨metrics, findings verdicts⟩

end Catalog

end Critique
