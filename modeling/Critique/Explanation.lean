import Critique.Report
import Critique.Topic.Lessons

/-!
# Explanations of topics
-/

namespace Critique

structure Explanation where
  body : Text
  stage : Stage
  model : Text
  /-- Slug of the category. -/
  category : Text
  deriving DecidableEq, Repr

namespace Explanation

open Text (paragraph)

def confidence (explanation : Explanation) : Text := explanation.stage.confidence

def generated (topic : Text) (category : Topic.Category) (provider text : Text) : Explanation where
  body := Text.unlines [
    "## " ++ topic,
    "",
    "*Explained with " ++ provider ++ "*",
    "",
    text,
    "",
    "---",
    "*Category: " ++ category.title ++ "*"]
  stage := .generated
  model := provider
  category := category.slug

def noteLines (language : Text) : List Text :=
  match Topic.note? language with
  | some note => paragraph ("### Notes for " ++ language) ++ paragraph note
  | none => []

/-- Exercises numbered from `n` on. -/
def numbered (n : Nat) : List Text → List Text
  | [] => []
  | exercise :: rest => (Text.ofNat n ++ ". " ++ exercise) :: numbered (n + 1) rest

/-- The lesson of a category, told about a topic. -/
def lesson (language topic : Text) (category : Topic.Category) : Explanation where
  body := Text.unlines (
    paragraph ("## " ++ topic ++ " in " ++ language) ++
    paragraph ("*Category: " ++ category.title ++ "*") ++
    paragraph "### Overview" ++ paragraph category.overview ++
    paragraph "### Key Points" ++ category.keyPoints.map Report.bullet ++ [[]] ++
    noteLines language ++
    paragraph "### Practice" ++ numbered 1 category.practice)
  stage := .heuristic
  model := Kind.review.heuristicModel
  category := category.slug

end Explanation

end Critique
