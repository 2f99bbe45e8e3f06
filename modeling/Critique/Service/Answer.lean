import Critique.Explanation
import Critique.Http.Message
import Critique.Json.Encoding
import Critique.Prompt
import Critique.Service.Basic
import Critique.Submission.Body

/-!
# Answers to submissions

Only a request that is turned down fails. Every other one is answered with the best report or
explanation that can be had: generated text if some provider gives an acceptable one, else what
the rules or the lessons say, and where a rule breaks down the sizes of the code alone. Providers
are asked only when the rules have spoken.
-/

namespace Critique

/-- What is told of a report. Only the search for bugs lists the rules that matched. -/
def Report.toJson (kind : Kind) (report : Report) : Json := .record [
  ("analysis", some (.string report.body)),
  ("confidence", some (.string report.confidence)),
  ("metrics", some report.metricsJson),
  ("model", some (.string report.model)),
  ("patterns_found", if kind = .bugs then some (.strings report.patterns) else none),
  ("status", some (.string report.stage.slug))]

def Explanation.toJson (explanation : Explanation) : Json := .object [
  ("category", .string explanation.category),
  ("confidence", .string explanation.confidence),
  ("explanation", .string explanation.body),
  ("model", .string explanation.model),
  ("status", .string explanation.stage.slug)]

def Refusal.toJson (refusal : Refusal) : Json := .object [
  ("code", .string refusal.code),
  ("error", .string refusal.message)]

/-- The report on an assessment after the providers have been asked. -/
def Report.ofOutcome (kind : Kind) (language : Text) (assessment : Assessment) :
    Completion.Outcome → Report
  | .generated text provider => .generated kind provider text assessment
  | .exhausted _ => .heuristic kind language assessment

/-- The explanation of a topic after the providers have been asked. -/
def Explanation.ofOutcome (language topic : Text) (category : Topic.Category) :
    Completion.Outcome → Explanation
  | .generated text provider => .generated topic category provider text
  | .exhausted _ => .lesson language topic category

namespace Service

/-- A response, and the attempts to have text generated for it. -/
structure Answer where
  response : Http.Response
  attempts : List Completion.Attempt

def Answer.silent (response : Http.Response) : Answer := ⟨response, []⟩

def Answer.refusal (refusal : Refusal) : Answer := silent (.json 400 refusal.toJson)

/-- The report on a submission, and the attempts to have text generated for it. -/
def report (service : Service) (kind : Kind) (submission : Submission) :
    Report × List Completion.Attempt :=
  match service.catalog.assess? kind submission.code submission.language with
  | none => (.basic kind submission.code, [])
  | some assessment =>
    let prompt := Prompt.ofCode kind submission.language submission.code assessment
    let attempts := (service.chains.ofKind kind).attempts prompt
    (.ofOutcome kind submission.language assessment (.ofAttempts attempts), attempts)

/-- The explanation of a topic, and the attempts to have text generated for it. -/
def explanation (service : Service) (submission : TopicSubmission) :
    Explanation × List Completion.Attempt :=
  let category := Topic.classify submission.topic
  let attempts := service.chains.learn.attempts
    (Prompt.ofTopic submission.language submission.topic category.slug)
  (.ofOutcome submission.language submission.topic category (.ofAttempts attempts), attempts)

def answerCode (service : Service) (kind : Kind) (request : CodeRequest) : Answer :=
  match Submission.ofRequest service.limits.maxCodeChars request with
  | .error refusal => .refusal refusal
  | .ok submission =>
    let (report, attempts) := service.report kind submission
    ⟨.json 200 (report.toJson kind), attempts⟩

def answerTopic (service : Service) (request : TopicRequest) : Answer :=
  match TopicSubmission.ofRequest request with
  | .error refusal => .refusal refusal
  | .ok submission =>
    let (explanation, attempts) := service.explanation submission
    ⟨.json 200 explanation.toJson, attempts⟩

end Service

end Critique
