import Critique.Json.Basic
import Critique.Report

/-!
# JSON forms of results

Members stand in alphabetical order.
-/

namespace Critique

def Metrics.members (metrics : Metrics) : List (Text × Json) := [
  ("char_count", .ofNat metrics.charCount),
  ("class_count", .ofNat metrics.classCount),
  ("function_count", .ofNat metrics.functionCount),
  ("line_count", .ofNat metrics.lineCount),
  ("long_line_count", .ofNat metrics.longLineCount),
  ("longest_function_lines", .ofNat metrics.longestFunctionLines),
  ("max_nesting_depth", .ofNat metrics.maxNestingDepth)]

def Metrics.toJson (metrics : Metrics) : Json := .object metrics.members

def Scores.toJson (scores : Scores) : Json := .object [
  ("best_practices", .ofNat scores.bestPractices),
  ("efficiency", .ofNat scores.efficiency),
  ("grade", .string [scores.grade]),
  ("maintainability", .ofNat scores.maintainability),
  ("overall", .ofNat scores.overall),
  ("readability", .ofNat scores.readability)]

def Risk.members (risk : Risk) : List (Text × Json) := [
  ("critical", .ofNat risk.critical),
  ("overall_risk", .string risk.level.label),
  ("total", .ofNat risk.total),
  ("warnings", .ofNat risk.warnings)]

def Risk.toJson (risk : Risk) : Json := .object risk.members

def Finding.toJson (finding : Finding) : Json := .record [
  ("description", some (.string finding.description)),
  ("dimension", some (.string finding.dimension.slug)),
  ("example", finding.sample.map .string),
  ("name", some (.string finding.name)),
  ("rationale", some (.string finding.rationale)),
  ("rule_id", some (.string finding.ruleId)),
  ("severity", some (.string finding.severity.label))]

/-- The metrics, the risk and, of a review, the scores of a report. -/
def Report.metricsJson (report : Report) : Json := .object (
  report.metrics.members ++ report.risk.members ++
  Json.present [("scores", report.scores.map Scores.toJson)])

end Critique
