import Critique.Proofs.Completion.Chain
import Critique.Proofs.Submission
import Critique.Service.Router

/-!
# The rungs of an answer

`answer_rungs`: a request to an analysis endpoint is turned down for a field that is missing, then
for code that is too long, and is answered in full otherwise: by a provider if one is accepted, by
the rules if none is, and by the sizes of the code if a rule that applies breaks down. Providers are
asked only when the rules have spoken, and only those of the endpoint.
-/

namespace Critique

open Completion (Chain)

-- ---------------------------------------------------------------------------
-- Rules that break down
-- ---------------------------------------------------------------------------

namespace Catalog

variable {catalog : Catalog} {kind : Kind} {code language : Text}

/-- The check of a rule that applies to the kind and the language breaks down on the code. -/
def BreaksDown (catalog : Catalog) (kind : Kind) (code language : Text) : Prop :=
  ∃ rule ∈ catalog, rule.appliesTo kind language = true ∧
    rule.matcher.verdict code (.ofCode code) = none

theorem any_isNone_iff :
    (catalog.verdicts kind code language (.ofCode code)).any (·.2.isNone) = true ↔
      catalog.BreaksDown kind code language := by
  simp [verdicts, applicable, BreaksDown]

theorem assess?_of_breaksDown (h : catalog.BreaksDown kind code language) :
    catalog.assess? kind code language = none := by
  simp only [assess?, any_isNone_iff.mpr h, if_true]

theorem assess?_of_not_breaksDown (h : ¬ catalog.BreaksDown kind code language) :
    catalog.assess? kind code language = some (catalog.assess kind code language) := by
  simp only [assess?, mt any_isNone_iff.mp h, assess]
  rfl

end Catalog

-- ---------------------------------------------------------------------------
-- What an answer tells
-- ---------------------------------------------------------------------------

namespace Service

/-- A member of the object that an answer holds. -/
def Answer.member? (answer : Answer) (key : Text) : Option Json :=
  match answer.response.content with
  | .json value => value.get? key
  | _ => none

/-- The answer with more headers, as it leaves the service. -/
def Answer.adding (headers : List Http.Header) (answer : Answer) : Answer :=
  { answer with response := answer.response.adding headers }

/-- A request is turned down, and no provider is asked. -/
structure Answer.Refuses (answer : Answer) (code : Text) : Prop where
  status : answer.response.status = 400
  code : answer.member? "code" = some (.string code)
  attempts : answer.attempts = []

/-- An answer tells how an analysis went, and what is known of the code. -/
structure Answer.Tells (answer : Answer) (kind : Kind) (stage confidence model : Text)
    (metrics : Json) (patterns : List Text) : Prop where
  status : answer.response.status = 200
  stage : answer.member? "status" = some (.string stage)
  confidence : answer.member? "confidence" = some (.string confidence)
  model : answer.member? "model" = some (.string model)
  metrics : answer.member? "metrics" = some metrics
  patterns : answer.member? "patterns_found" =
    if kind = .bugs then some (.strings patterns) else none

/-- Of code that could not be assessed only the sizes are known. -/
structure SizesAlone (code : Text) (metrics : Json) : Prop where
  lines : metrics.get? "line_count" = some (.ofNat (Metrics.ofCode code).lineCount)
  chars : metrics.get? "char_count" = some (.ofNat (Metrics.ofCode code).charCount)
  level : metrics.get? "overall_risk" = some (.string "UNKNOWN")
  critical : metrics.get? "critical" = some (.ofNat 0)
  warnings : metrics.get? "warnings" = some (.ofNat 0)
  total : metrics.get? "total" = some (.ofNat 0)
  scores : metrics.get? "scores" = none

/-- All that is known of code that has been assessed. -/
def assessed (kind : Kind) (assessment : Assessment) : Json := .object (
  assessment.metrics.members ++ assessment.risk.members ++
    if kind = .review then [(("scores" : Text), assessment.scores.toJson)] else [])

/-- A report is told as it is, whoever may read it. -/
theorem tells_report (kind : Kind) (report : Report) (headers : List Http.Header)
    (attempts : List Completion.Attempt) :
    (Answer.adding headers ⟨.json 200 (report.toJson kind), attempts⟩).Tells kind
      report.stage.slug report.confidence report.model report.metricsJson report.patterns := by
  cases kind <;> exact ⟨rfl, rfl, rfl, rfl, rfl, rfl⟩

theorem tells_ofAssessment (kind : Kind) (assessment : Assessment) (stage : Stage)
    (model body : Text) (headers : List Http.Header) (attempts : List Completion.Attempt) :
    let report := Report.ofAssessment kind assessment stage model body
    (Answer.adding headers ⟨.json 200 (report.toJson kind), attempts⟩).Tells kind
      stage.slug stage.confidence model (assessed kind assessment) assessment.ruleIds := by
  intro report
  have hmetrics : report.metricsJson = assessed kind assessment := by cases kind <;> rfl
  exact hmetrics ▸ tells_report kind report headers attempts

-- ---------------------------------------------------------------------------
-- The rungs
-- ---------------------------------------------------------------------------

variable {service : Service} {kind : Kind} {code language : Text}

theorem report_of_breaksDown (h : service.catalog.BreaksDown kind code language) :
    service.report kind ⟨code, language⟩ = (.basic kind code, []) := by
  simp only [report, Catalog.assess?_of_breaksDown h]

theorem report_of_not_breaksDown (h : ¬ service.catalog.BreaksDown kind code language) :
    let assessment := service.catalog.assess kind code language
    let prompt := Prompt.ofCode kind language code assessment
    service.report kind ⟨code, language⟩ =
      (.ofOutcome kind language assessment ((service.chains.ofKind kind).outcome prompt),
        (service.chains.ofKind kind).attempts prompt) := by
  simp only [report, Catalog.assess?_of_not_breaksDown h, Chain.outcome]

/-- A request to the endpoint of a kind of analysis whose body can be read. -/
structure Sends (http : Http.Request) (kind : Kind) (request : CodeRequest) : Prop where
  path : http.path = (Endpoint.analysis kind).path
  method : http.method = "POST"
  body : receive http CodeRequest.ofBody = .ok request

theorem answer_of_sends {http : Http.Request} {request : CodeRequest}
    (h : Sends http kind request) :
    service.answer http =
      (service.answerCode kind request).adding (sharingHeaders service.server) := by
  have hpath : Endpoint.ofPath? http.path = some (.analysis kind) := by
    rw [h.path]
    cases kind <;> rfl
  have hmethod : (Endpoint.analysis kind).methods.contains http.method = true := by
    rw [h.method]
    rfl
  simp only [answer, route, hpath, hmethod, if_true, answerAt, h.body, answerReceived,
    Answer.adding]

/-- The answer that a request gets, from the first check to the last resort. -/
structure Rungs (service : Service) (kind : Kind) (request : CodeRequest) (answer : Answer) :
    Prop where
  unfilled : Unfilled request.code ∨ Unfilled request.language → answer.Refuses "MISSING_FIELD"
  tooLong : ∀ code language, request.Filled code language →
    service.limits.maxCodeChars < code.length → answer.Refuses "CODE_TOO_LONG"
  basic : ∀ code raw, request.Filled code raw → code.length ≤ service.limits.maxCodeChars →
    service.catalog.BreaksDown kind code (Language.canonical raw) →
    answer.attempts = [] ∧ ∃ metrics, SizesAlone code metrics ∧
      answer.Tells kind "basic_fallback" "low" "fallback" metrics []
  asked : ∀ code raw, request.Filled code raw → code.length ≤ service.limits.maxCodeChars →
    ¬ service.catalog.BreaksDown kind code (Language.canonical raw) →
    let assessment := service.catalog.assess kind code (Language.canonical raw)
    let prompt := Prompt.ofCode kind (Language.canonical raw) code assessment
    let chain := service.chains.ofKind kind
    (∀ k provider text, chain.FirstAccepted prompt k provider text →
      answer.attempts = (chain.providers.take (k + 1)).map (chain.attempt prompt) ∧
        answer.Tells kind "ai_success" "high" provider.id (assessed kind assessment)
          assessment.ruleIds) ∧
    ((∀ provider ∈ chain.providers, ∀ text, ¬ chain.Accepts prompt provider text) →
      answer.attempts = chain.providers.map (chain.attempt prompt) ∧
        answer.Tells kind "heuristic_fallback" "medium" kind.heuristicModel
          (assessed kind assessment) assessment.ruleIds)

variable {request : CodeRequest}

theorem refuses_of_unfilled (headers : List Http.Header)
    (h : Unfilled request.code ∨ Unfilled request.language) :
    ((service.answerCode kind request).adding headers).Refuses "MISSING_FIELD" := by
  rw [answerCode, Submission.ofRequest_of_unfilled _ h]
  exact ⟨rfl, rfl, rfl⟩

theorem refuses_of_tooLong (headers : List Http.Header) (h : request.Filled code language)
    (hlong : service.limits.maxCodeChars < code.length) :
    ((service.answerCode kind request).adding headers).Refuses "CODE_TOO_LONG" := by
  rw [answerCode, Submission.ofRequest_of_filled h, if_pos hlong]
  exact ⟨rfl, rfl, rfl⟩

theorem answerCode_of_filled (h : request.Filled code language)
    (hshort : code.length ≤ service.limits.maxCodeChars) :
    service.answerCode kind request =
      let (report, attempts) := service.report kind ⟨code, Language.canonical language⟩
      ⟨.json 200 (report.toJson kind), attempts⟩ := by
  rw [answerCode, Submission.ofRequest_of_filled h, if_neg (Nat.not_lt.mpr hshort)]

theorem rungs_answerCode (service : Service) (kind : Kind) (request : CodeRequest)
    (headers : List Http.Header) :
    Rungs service kind request ((service.answerCode kind request).adding headers) := by
  refine ⟨refuses_of_unfilled headers, fun _ _ => refuses_of_tooLong headers, ?basic, ?asked⟩
  case basic =>
    intro code raw hs hshort hb
    rw [answerCode_of_filled hs hshort, report_of_breaksDown hb]
    exact ⟨rfl, _, ⟨rfl, rfl, rfl, rfl, rfl, rfl, rfl⟩, tells_report kind (.basic kind code) _ _⟩
  case asked =>
    intro code raw hs hshort hb assessment prompt chain
    rw [answerCode_of_filled hs hshort, report_of_not_breaksDown hb]
    constructor
    · intro k provider text hf
      obtain ⟨hout, hattempts, -⟩ := Chain.of_firstAccepted hf
      rw [hout]
      exact ⟨hattempts, tells_ofAssessment kind assessment .generated _ _ _ _⟩
    · intro hnone
      obtain ⟨hout, hattempts, -⟩ := Chain.of_none_accepted hnone
      rw [hout]
      exact ⟨hattempts, tells_ofAssessment kind assessment .heuristic _ _ _ _⟩

theorem answerCode_own {chains : Chains}
    (h : chains.ofKind kind = service.chains.ofKind kind) :
    { service with chains }.answerCode kind request = service.answerCode kind request := by
  simp only [answerCode, report, h]

/-- Every request to an analysis endpoint gets the best answer that can be had, from the providers
of that endpoint alone. -/
theorem answer_rungs (service : Service) {http : Http.Request} (h : Sends http kind request) :
    Rungs service kind request (service.answer http) ∧
      ∀ chains : Chains, chains.ofKind kind = service.chains.ofKind kind →
        { service with chains }.answer http = service.answer http := by
  constructor
  · rw [answer_of_sends h]
    exact rungs_answerCode service kind request _
  · intro chains hc
    rw [answer_of_sends h, answer_of_sends h, answerCode_own hc]

/-- A service whose one rule breaks down on Python code, with one provider for reviews. -/
def fragile : Service where
  catalog := [{
    id := "fragile"
    name := "Fragile"
    languages := ["python"]
    kinds := Kind.all
    matcher := .text fun _ => none
    severity := .low
    dimension := .readability
    description := []
    rationale := []
    sample := none }]
  chains := { Chains.empty with
    review := ⟨[⟨"good", fun _ => .text "Fine."⟩], .ofSeconds 1, ⟨3, []⟩⟩ }
  limits := ⟨5⟩
  server := .default

def submitted (language : Text) : Http.Request where
  method := "POST"
  target := "/api/review"
  headers := [("content-type", "application/json")]
  body := Utf8.encode ("\x7b\"code\":\"x = 1\",\"language\":\"" ++ language ++ "\"\x7d")

theorem fragile_answers :
    (fragile.answer (submitted "Py")).member? "status" = some (.string "basic_fallback") ∧
      (fragile.answer (submitted "JS")).member? "status" = some (.string "ai_success") ∧
      (fragile.answer (submitted "JS")).member? "model" = some (.string "good") := by
  have hpy : Sends (submitted "Py") .review ⟨some "x = 1", some "Py"⟩ := ⟨rfl, rfl, rfl⟩
  have hjs : Sends (submitted "JS") .review ⟨some "x = 1", some "JS"⟩ := ⟨rfl, rfl, rfl⟩
  have hpyc : Language.canonical "Py" = "python" := by decide
  have hjsc : Language.canonical "JS" = "javascript" := by decide
  refine ⟨?py, ?js⟩
  case py =>
    have hbreaks : fragile.catalog.BreaksDown .review "x = 1" (Language.canonical "Py") := by
      rw [hpyc]
      exact ⟨_, List.mem_singleton.mpr rfl, by decide, rfl⟩
    obtain ⟨-, _, -, htells⟩ := (answer_rungs fragile hpy).1.basic "x = 1" "Py"
      ⟨rfl, rfl, by decide, by decide⟩ (by decide) hbreaks
    exact htells.stage
  case js =>
    have hholds : ¬ fragile.catalog.BreaksDown .review "x = 1" (Language.canonical "JS") := by
      rw [hjsc]
      rintro ⟨rule, hm, ha, -⟩
      cases List.mem_singleton.mp hm
      exact absurd ha (by decide)
    obtain ⟨hgenerated, -⟩ := (answer_rungs fragile hjs).1.asked "x = 1" "JS"
      ⟨rfl, rfl, by decide, by decide⟩ (by decide) hholds
    obtain ⟨-, htells⟩ := hgenerated 0 ⟨"good", fun _ => .text "Fine."⟩ "Fine."
      ⟨rfl, ⟨"Fine.", rfl, rfl⟩, by simp⟩
    exact ⟨htells.stage, htells.model⟩

end Service

end Critique
