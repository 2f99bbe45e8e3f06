import Critique.Assessment
import Critique.Fence
import Critique.Text.Casing

/-!
# Prompts

What a text generator is asked. The code stands in a fence that it cannot close.
-/

namespace Critique.Prompt

open Text (paragraph)

def intro (kind : Kind) (language : Text) : Text :=
  let name := Text.upper language
  match kind with
  | .bugs =>
    "Analyze this " ++ name ++ " code for bugs, anti-patterns and risky constructs. " ++
      "Be thorough and explain each issue to a student."
  | .review =>
    "Review this " ++ name ++ " code as a patient senior engineer mentoring a student. " ++
      "Cover correctness, readability and style."
  | .optimize =>
    "As an expert software engineer, analyze and improve the performance and structure of this " ++
      name ++ " code."

/-- Lines that tell the sections of the answer. -/
def sections : Kind → List Text
  | .bugs => [
    "## Critical Bug Analysis",
    "",
    "### High Severity Issues",
    "[Critical bugs with explanations]",
    "",
    "### Medium Severity Issues",
    "[Important issues with explanations]",
    "",
    "### Code Improvements",
    "[Suggestions and best practices]",
    "",
    "### Fixed Code Examples",
    "[Before/after code snippets]"]
  | .review => [
    "## Summary",
    "[One paragraph overall impression]",
    "",
    "## Strengths",
    "[What the code does well]",
    "",
    "## Issues",
    "[Problems ordered by importance]",
    "",
    "## Suggestions",
    "[Concrete changes with short code examples]"]
  | .optimize => [
    "## Deep Analysis",
    "[Time and space complexity, bottlenecks]",
    "",
    "## Optimization Strategies",
    "[Algorithm and data structure improvements]",
    "",
    "## Specific Improvements",
    "[Numbered list of changes]",
    "",
    "## Before/After Comparison",
    "[Optimized code and complexity comparison]"]

def measures (metrics : Metrics) : Text :=
  "Code metrics: " ++ Text.ofNat metrics.lineCount ++ " lines, " ++
    Text.ofNat metrics.functionCount ++ " functions, " ++ Text.ofNat metrics.classCount ++
    " classes, max nesting depth " ++ Text.ofNat metrics.maxNestingDepth ++ "."

/-- Lines about the size of the code, where an answer profits from them. -/
def measureLines (kind : Kind) (metrics : Metrics) : List Text :=
  if kind = .optimize then paragraph (measures metrics) else []

def findingItem (finding : Finding) : Text :=
  "- " ++ finding.name ++ ": " ++ finding.description

def findingItems (findings : List Finding) : List Text :=
  if findings.isEmpty then ["- None detected."] else findings.map findingItem

def findingsHeading : Text := "Patterns detected by static analysis:"

def findingLines (findings : List Finding) : List Text :=
  findingsHeading :: findingItems findings ++ [[]]

/-- Asks for an analysis of code. -/
def ofCode (kind : Kind) (language code : Text) (assessment : Assessment) : Text :=
  Text.unlines (
    paragraph (intro kind language) ++ paragraph (Fence.block language code) ++
    measureLines kind assessment.metrics ++
    findingLines assessment.findings ++
    paragraph "Respond in Markdown using exactly these sections:" ++ sections kind)

/-- Asks for an explanation of a topic. -/
def ofTopic (language topic category : Text) : Text :=
  Text.unlines [
    "Explain the " ++ category ++ " topic \"" ++ topic ++ "\" in " ++ language ++
      " to a programming student.",
    "",
    "Respond in Markdown with these sections:",
    "",
    "## Overview",
    "[What it is and why it matters]",
    "",
    "## Key Points",
    "[The essential ideas as a bulleted list]",
    "",
    "## Example",
    "[A short, runnable " ++ language ++ " example with comments]",
    "",
    "## Common Mistakes",
    "[Pitfalls beginners run into]",
    "",
    "## Practice",
    "[Two or three small exercises]"]

end Critique.Prompt
