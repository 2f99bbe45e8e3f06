import Critique.FileAssessment
import Critique.Json.Encoding
import Critique.Json.Printer
import Critique.Report
import Critique.Style

/-!
# Listings

How assessments of files are shown: in words and colours, as JSON, with one line for a finding, or
as the report that the service would give.
-/

namespace Critique

inductive Format where
  | pretty
  | json
  | compact
  | markdown
  deriving DecidableEq, Repr

namespace Format

def all : List Format := [.pretty, .json, .compact, .markdown]

def slug : Format → Text
  | .pretty => "pretty"
  | .json => "json"
  | .compact => "compact"
  | .markdown => "markdown"

def ofSlug? (slug : Text) : Option Format := all.find? (·.slug == slug)

end Format

namespace Listing

/-! ## Words and colours -/

def severityColour : Severity → Colour
  | .high => .red
  | .medium => .yellow
  | .low => .blue

def severityMark : Severity → Text
  | .high => "✖"
  | .medium => "⚠"
  | .low => "ℹ"

def severityName : Severity → Text
  | .high => "high"
  | .medium => "medium"
  | .low => "low"

/-- Low severity is not stressed. -/
def severityStyle : Severity → Style
  | .low => .plain .blue
  | severity => .strong (severityColour severity)

def riskStyle : Risk.Level → Style
  | .high => .strong .red
  | .medium => .strong .yellow
  | .low => .strong .green
  | .unknown => .dimmed

def prettyFinding (colours : Bool) (finding : Finding) : Text :=
  let severity := finding.severity
  Text.unlines [
    "",
    "  " ++ Style.paint colours (.plain (severityColour severity)) (severityMark severity) ++ " " ++
      Style.paint colours (severityStyle severity) (severityName severity) ++ " [" ++
      Style.paint colours (.plain .cyan) finding.ruleId ++ "]",
    "    " ++ Style.paint colours .dimmed "→" ++ " " ++ Style.paint colours .bold finding.name,
    "    " ++ finding.description]

def prettyMetrics (colours : Bool) (metrics : Metrics) : Text :=
  "  " ++ Style.paint colours .bold "Metrics:" ++ " " ++ Text.ofNat metrics.lineCount ++
    " lines, " ++ Text.ofNat metrics.functionCount ++ " functions, " ++
    Text.ofNat metrics.classCount ++ " classes, nesting " ++ Text.ofNat metrics.maxNestingDepth

def prettyScores (colours : Bool) (scores : Scores) : Text :=
  "  " ++ Style.paint colours .bold "Grade:" ++ " " ++
    Style.paint colours .bold [scores.grade] ++ " (overall " ++ Text.ofNat scores.overall ++
    ", maintainability " ++ Text.ofNat scores.maintainability ++ ", readability " ++
    Text.ofNat scores.readability ++ ", efficiency " ++ Text.ofNat scores.efficiency ++
    ", best practices " ++ Text.ofNat scores.bestPractices ++ ")"

def prettyRisk (colours : Bool) (level : Risk.Level) : Text :=
  "  " ++ Style.paint colours .bold "Risk:" ++ " " ++
    Style.paint colours (riskStyle level) level.label

def pretty (colours : Bool) (kind : Kind) (file : FileAssessment) : Text :=
  let assessment := file.assessment
  let title := Style.paint colours ⟨[.bold, .underline], none⟩ file.path ++ " " ++
    Style.paint colours .dimmed ("(" ++ file.language ++ ")")
  let scores := if kind = .review then [prettyScores colours assessment.scores] else []
  Text.unlines [[], title] ++ assessment.findings.flatMap (prettyFinding colours) ++
    Text.unlines ([[], prettyMetrics colours assessment.metrics] ++ scores ++
      [prettyRisk colours assessment.risk.level])

/-! ## JSON -/

def fileJson (file : FileAssessment) : Json := .object [
  ("file", .string file.path),
  ("findings", .array (file.assessment.findings.map Finding.toJson)),
  ("language", .string file.language),
  ("metrics", file.assessment.metrics.toJson),
  ("risk", file.assessment.risk.toJson),
  ("scores", file.assessment.scores.toJson)]

/-- One array for all files. -/
def json (files : List FileAssessment) : Text := (Json.array (files.map fileJson)).pretty 0

/-! ## One line for a finding -/

def severityInitial : Severity → Char
  | .high => 'H'
  | .medium => 'M'
  | .low => 'L'

def compactFinding (path : Text) (finding : Finding) : Text :=
  path ++ ": " ++ [severityInitial finding.severity] ++ " [" ++ finding.ruleId ++ "] " ++
    finding.description

def compact (file : FileAssessment) : Text :=
  Text.unlines (file.assessment.findings.map (compactFinding file.path))

/-! ## Reports -/

def markdown (kind : Kind) (file : FileAssessment) : Text :=
  Text.line ("<!-- " ++ file.path ++ " -->") ++
    (Report.heuristic kind file.language file.assessment).body

/-! ## All formats -/

def file (colours : Bool) (kind : Kind) (format : Format) (file : FileAssessment) : Text :=
  match format with
  | .pretty => pretty colours kind file
  | .json => json [file]
  | .compact => compact file
  | .markdown => markdown kind file

def summary (colours : Bool) (summary : Summary) : Text :=
  Style.paint colours .bold (Text.ofNat summary.total ++ " issues") ++ " in " ++
    Text.ofNat summary.filesWithIssues ++ " of " ++ Text.ofNat summary.totalFiles ++ " " ++
    (if summary.totalFiles = 1 then "file" else "files") ++ " (" ++
    Style.paint colours (.strong .red) (Text.ofNat summary.high) ++ " high, " ++
    Style.paint colours (.strong .yellow) (Text.ofNat summary.medium) ++ " medium, " ++
    Style.paint colours (.plain .blue) (Text.ofNat summary.low) ++ " low)"

/-- The last line of a listing. -/
def verdict (colours : Bool) (files : Summary) : Text :=
  if files.total = 0 then Style.paint colours (.strong .green) "✓ No issues found!"
  else Style.paint colours .bold "Found" ++ " " ++ summary colours files

/-- All files, and but for JSON what they come to. -/
def files (colours : Bool) (kind : Kind) (format : Format) (files : List FileAssessment) : Text :=
  if format = .json then Text.line (json files)
  else files.flatMap (file colours kind format) ++
    Text.unlines [[], verdict colours (.ofFiles files)]

end Listing

end Critique
