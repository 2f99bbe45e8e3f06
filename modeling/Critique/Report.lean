import Critique.Assessment
import Critique.Fence

/-!
# Reports

Every submission gets a report. The best one holds generated text; without that the rules alone
speak; and where a rule breaks down the report tells sizes only. The same input always gives the
same text.
-/

namespace Critique

/-- How far an answer got. -/
inductive Stage where
  | generated
  | heuristic
  | basic
  deriving DecidableEq, Repr

namespace Stage

def slug : Stage → Text
  | .generated => "ai_success"
  | .heuristic => "heuristic_fallback"
  | .basic => "basic_fallback"

/-- How far an answer can be trusted. -/
def confidence : Stage → Text
  | .generated => "high"
  | .heuristic => "medium"
  | .basic => "low"

end Stage

structure Report where
  body : Text
  stage : Stage
  model : Text
  metrics : Metrics
  risk : Risk
  /-- Only reviews are scored. -/
  scores : Option Scores
  /-- Ids of the rules that matched, in the order of the catalog. -/
  patterns : List Text
  deriving DecidableEq, Repr

namespace Report

open Text (paragraph)

def confidence (report : Report) : Text := report.stage.confidence

/-- A report that carries all that an assessment tells. -/
def ofAssessment (kind : Kind) (assessment : Assessment) (stage : Stage) (model body : Text) :
    Report where
  body
  stage
  model
  metrics := assessment.metrics
  risk := assessment.risk
  scores := if kind = .review then some assessment.scores else none
  patterns := assessment.ruleIds

/-! ## Generated text -/

def generatedBody (kind : Kind) (provider text : Text) (risk : Risk) : Text :=
  Text.unlines [
    "## " ++ kind.title,
    "",
    "*Analyzed with " ++ provider ++ "*",
    "",
    text,
    "",
    "---",
    "*AI analysis completed. Static analysis found " ++ Text.ofNat risk.total ++
      " pattern(s), overall risk " ++ risk.level.label ++ ".*"]

def generated (kind : Kind) (provider text : Text) (assessment : Assessment) : Report :=
  ofAssessment kind assessment .generated provider
    (generatedBody kind provider text assessment.risk)

/-! ## Findings alone -/

def sampleLines (language : Text) : Option Text → List Text
  | some sample => paragraph (Fence.block language sample)
  | none => []

def findingLines (language : Text) (finding : Finding) : List Text :=
  paragraph ("#### " ++ finding.name ++ " (`" ++ finding.ruleId ++ "`)") ++
    paragraph finding.description ++ paragraph finding.rationale ++
    sampleLines language finding.sample

/-- The findings of one severity under a heading of their own. -/
def severityLines (language : Text) (assessment : Assessment) (severity : Severity) : List Text :=
  let findings := assessment.withSeverity severity
  if findings.isEmpty then []
  else paragraph ("### " ++ severity.label ++ " Severity Issues") ++
    findings.flatMap (findingLines language)

def issueLines (language : Text) (assessment : Assessment) : List Text :=
  if assessment.findings.isEmpty then
    paragraph "### No Issues Detected" ++
    paragraph ("No known problem patterns were found. That does not prove the code is correct: " ++
      "test edge cases and review the logic by hand.")
  else [Severity.high, .medium, .low].flatMap (severityLines language assessment)

def row (name value : Text) : Text := "| " ++ name ++ " | " ++ value ++ " |"

def metricRows (metrics : Metrics) : List Text := [
  row "Lines" (Text.ofNat metrics.lineCount),
  row "Characters" (Text.ofNat metrics.charCount),
  row "Functions" (Text.ofNat metrics.functionCount),
  row "Classes" (Text.ofNat metrics.classCount),
  row "Max nesting depth" (Text.ofNat metrics.maxNestingDepth),
  row "Longest function (lines)" (Text.ofNat metrics.longestFunctionLines),
  row "Lines over 100 chars" (Text.ofNat metrics.longLineCount)]

def scoreRows (scores : Scores) : List Text := [
  row "Maintainability" (Text.ofNat scores.maintainability),
  row "Readability" (Text.ofNat scores.readability),
  row "Efficiency" (Text.ofNat scores.efficiency),
  row "Best practices" (Text.ofNat scores.bestPractices),
  row "Overall" (Text.ofNat scores.overall),
  row "Grade" [scores.grade]]

def tableLines (kind : Kind) (assessment : Assessment) : List Text :=
  paragraph "### Metrics" ++ row "Metric" "Value" :: "|---|---|" :: metricRows assessment.metrics ++
    (if kind = .review then scoreRows assessment.scores else []) ++ [[]]

def riskLines (risk : Risk) : List Text :=
  paragraph "### Risk Summary" ++ [
    "- **Overall risk:** " ++ risk.level.label,
    "- **Critical issues:** " ++ Text.ofNat risk.critical,
    "- **Warnings:** " ++ Text.ofNat risk.warnings,
    "- **Total patterns:** " ++ Text.ofNat risk.total,
    ""]

/-- Tips for code in which a rule matched. -/
structure Advice where
  ruleId : Text
  title : Text
  tips : List Text

def advices : List Advice := [
  { ruleId := "recursion"
    title := "Recursion"
    tips := [
      "Memoize results that are computed more than once",
      "Consider an iterative version with an explicit stack",
      "Watch for stack overflow on large inputs"] },
  { ruleId := "nested_loops"
    title := "Nested Loops"
    tips := [
      "Work out the time complexity; nested loops over the same data are usually O(n^2)",
      "Replace the inner search with a set or map lookup",
      "Move work that does not depend on the inner loop outside it"] },
  { ruleId := "deep_conditionals"
    title := "Conditional Logic"
    tips := [
      "Return early with guard clauses",
      "Extract complex conditions into well-named functions",
      "Replace type-based branching with a lookup table or polymorphism"] }]

def bullet (t : Text) : Text := "- " ++ t

def Advice.lines (advice : Advice) : List Text :=
  ("**" ++ advice.title ++ ":**") :: advice.tips.map bullet ++ [[]]

/-- Tips on what was found, for optimizations. -/
def adviceLines (kind : Kind) (assessment : Assessment) : List Text :=
  let matched := advices.filter fun advice => assessment.hasFinding advice.ruleId
  if kind ≠ .optimize || matched.isEmpty then []
  else paragraph "### Targeted Advice" ++ matched.flatMap Advice.lines

def recommendations : Kind → List Text
  | .bugs => [
    "Fix HIGH severity issues first; they are the most likely to cause incorrect behavior",
    "Add tests that reproduce each issue before fixing it",
    "Handle specific exceptions and log failures instead of ignoring them",
    "Run a linter for your language as part of every change"]
  | .review => [
    "Address the lowest-scoring dimension first",
    "Keep functions short and give names to magic values",
    "Add comments where intent is not obvious from the code",
    "Write unit tests for the main paths and edge cases"]
  | .optimize => [
    "Profile before optimizing to find the real bottleneck",
    "Choose data structures by the operations you perform most",
    "Avoid repeated work inside loops",
    "Benchmark before and after each change"]

def heuristicLines (kind : Kind) (language : Text) (assessment : Assessment) : List Text :=
  paragraph ("## " ++ kind.title ++ ": Heuristic Analysis") ++
    paragraph ("*Generated by static pattern analysis for " ++ language ++
      ". AI analysis was unavailable.*") ++
    issueLines language assessment ++ tableLines kind assessment ++ riskLines assessment.risk ++
    adviceLines kind assessment ++ paragraph "### Recommendations" ++
    (recommendations kind).map bullet

def heuristic (kind : Kind) (language : Text) (assessment : Assessment) : Report :=
  ofAssessment kind assessment .heuristic kind.heuristicModel
    (Text.unlines (heuristicLines kind language assessment))

/-! ## Sizes alone -/

def sizes (code : Text) : Metrics where
  lineCount := Metrics.countLines code
  charCount := code.length
  functionCount := 0
  classCount := 0
  maxNestingDepth := 0
  longLineCount := 0
  longestFunctionLines := 0

def basic (kind : Kind) (code : Text) : Report where
  body := Text.unlines [
    "## " ++ kind.title,
    "",
    "Detailed analysis is temporarily unavailable.",
    "",
    "- **Characters:** " ++ Text.ofNat code.length,
    "- **Lines:** " ++ Text.ofNat (Metrics.countLines code),
    "",
    "Please try again later."]
  stage := .basic
  model := "fallback"
  metrics := sizes code
  risk := .unknown
  scores := none
  patterns := []

end Report

end Critique
