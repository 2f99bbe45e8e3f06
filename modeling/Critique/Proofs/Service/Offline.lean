import Critique.Proofs.Completion.Token
import Critique.Proofs.Service.Ladder

/-!
# Answers without a token

A chain that never comes to a completion might as well be empty: an answer is made from the outcome
of its chain, and that chain was exhausted is all that it takes from it. `tokenless_eq_disabled`: a
service that has text generated but has no token sends nothing and answers every request as the one
that has none generated.
-/

namespace Critique

open Completion (Chain Network)

-- ---------------------------------------------------------------------------
-- Chains that come to nothing
-- ---------------------------------------------------------------------------

/-- No prompt gets a completion from the chain. -/
def Completion.Chain.Fruitless (chain : Chain) : Prop :=
  ∀ prompt, ∃ attempts, chain.outcome prompt = .exhausted attempts

structure Chains.Fruitless (chains : Chains) : Prop where
  review : chains.review.Fruitless
  bugs : chains.bugs.Fruitless
  optimize : chains.optimize.Fruitless
  learn : chains.learn.Fruitless

namespace Chains

theorem Fruitless.ofKind {chains : Chains} (h : chains.Fruitless) (kind : Kind) :
    (chains.ofKind kind).Fruitless := by
  cases kind with
  | review => exact h.review
  | bugs => exact h.bugs
  | optimize => exact h.optimize

theorem fruitless_empty : Chains.empty.Fruitless := by
  have hempty : Chain.empty.Fruitless := fun _ => ⟨0, rfl⟩
  exact ⟨hempty, hempty, hempty, hempty⟩

theorem fruitless_ofRoutes {generation : Generation} (h : Unfilled generation.token)
    (network : Network) (routes : Routes) : (ofRoutes network generation routes).Fruitless := by
  have hroute (route : Route) : (route.chain network generation).Fruitless :=
    fun prompt => ⟨_, route.outcome_of_unfilled h prompt⟩
  exact ⟨hroute _, hroute _, hroute _, hroute _⟩

end Chains

-- ---------------------------------------------------------------------------
-- Services with such chains
-- ---------------------------------------------------------------------------

namespace Service

variable {service : Service} {chains : Chains}

theorem report_of_fruitless (h : service.chains.Fruitless) (hc : chains.Fruitless) (kind : Kind)
    (submission : Submission) :
    ({ service with chains }.report kind submission).1 = (service.report kind submission).1 := by
  unfold report
  cases service.catalog.assess? kind submission.code submission.language with
  | none => rfl
  | some assessment =>
    obtain ⟨_, hn⟩ := h.ofKind kind
      (Prompt.ofCode kind submission.language submission.code assessment)
    obtain ⟨_, hm⟩ := hc.ofKind kind
      (Prompt.ofCode kind submission.language submission.code assessment)
    rw [Chain.outcome] at hn hm
    simp only [hn, hm, Report.ofOutcome]

theorem explanation_of_fruitless (h : service.chains.Fruitless) (hc : chains.Fruitless)
    (submission : TopicSubmission) :
    ({ service with chains }.explanation submission).1 = (service.explanation submission).1 := by
  unfold explanation
  obtain ⟨_, hn⟩ := h.learn
    (Prompt.ofTopic submission.language submission.topic (Topic.classify submission.topic).slug)
  obtain ⟨_, hm⟩ := hc.learn
    (Prompt.ofTopic submission.language submission.topic (Topic.classify submission.topic).slug)
  rw [Chain.outcome] at hn hm
  simp only [hn, hm, Explanation.ofOutcome]

theorem answerCode_of_fruitless (h : service.chains.Fruitless) (hc : chains.Fruitless)
    (kind : Kind) (request : CodeRequest) :
    ({ service with chains }.answerCode kind request).response =
      (service.answerCode kind request).response := by
  unfold answerCode
  cases Submission.ofRequest service.limits.maxCodeChars request with
  | error refusal => rfl
  | ok submission => simp only [report_of_fruitless h hc]

theorem answerTopic_of_fruitless (h : service.chains.Fruitless) (hc : chains.Fruitless)
    (request : TopicRequest) :
    ({ service with chains }.answerTopic request).response =
      (service.answerTopic request).response := by
  unfold answerTopic
  cases TopicSubmission.ofRequest request with
  | error refusal => rfl
  | ok submission => simp only [explanation_of_fruitless h hc]

theorem answerAt_of_fruitless (h : service.chains.Fruitless) (hc : chains.Fruitless)
    (http : Http.Request) (endpoint : Endpoint) :
    ({ service with chains }.answerAt http endpoint).response =
      (service.answerAt http endpoint).response := by
  cases endpoint with
  | health => rfl
  | analysis kind =>
    unfold answerAt answerReceived
    cases receive http CodeRequest.ofBody with
    | error rejection => rfl
    | ok request => exact answerCode_of_fruitless h hc kind request
  | explanation =>
    unfold answerAt answerReceived
    cases receive http TopicRequest.ofBody with
    | error rejection => rfl
    | ok request => exact answerTopic_of_fruitless h hc request

/-- Chains that come to nothing can be told apart by no response. -/
theorem response_of_fruitless (h : service.chains.Fruitless) (hc : chains.Fruitless)
    (http : Http.Request) :
    ({ service with chains }.answer http).response = (service.answer http).response := by
  have hroute : ({ service with chains }.route http).response = (service.route http).response := by
    unfold route
    cases Endpoint.ofPath? http.path with
    | none => rfl
    | some endpoint =>
      simp only
      split
      · exact answerAt_of_fruitless h hc http endpoint
      · rfl
  simp only [answer, hroute]

end Service

-- ---------------------------------------------------------------------------
-- Settings without a token
-- ---------------------------------------------------------------------------

/-- The settings with the generation of text on or off. -/
def Settings.generating (settings : Settings) (enabled : Bool) : Settings :=
  { settings with generation := { settings.generation with enabled } }

/-- Without a token nothing is sent and every route is exhausted with one warning for each endpoint,
whatever the network does. No response differs from that of a service that does not have text
generated. -/
theorem tokenless_eq_disabled (network : Network) (settings : Settings)
    (h : Unfilled settings.generation.token) :
    (∀ (route : Route) (prompt : Text),
      let chain := route.chain network settings.generation
      chain.outcome prompt = .exhausted route.addresses.length ∧
      (Warning.ofAttempts (chain.attempts prompt)).map Warning.details =
        route.addresses.map (fun address => [(("provider" : Text), Completion.modelId address),
          ("error", "no API token configured")]) ∧
      route.requests settings.generation prompt = [] ∧
      ∀ other, route.chain other settings.generation = chain) ∧
    ∀ http : Http.Request,
      ((Service.ofSettings network (settings.generating true)).answer http).response =
        ((Service.ofSettings network (settings.generating false)).answer http).response := by
  constructor
  · intro route prompt chain
    refine ⟨route.outcome_of_unfilled h prompt, ?_, route.requests_of_unfilled h prompt,
      fun other => route.chain_of_unfilled h other network⟩
    rw [route.warnings_of_unfilled h, List.map_map]
    rfl
  · intro http
    have hoff : (Service.ofSettings network (settings.generating false)).chains.Fruitless :=
      Chains.fruitless_empty
    have hon : (Chains.ofRoutes network settings.generation settings.routes).Fruitless :=
      Chains.fruitless_ofRoutes h network settings.routes
    exact Service.response_of_fruitless hoff hon http

/-- The token is there, and blank. -/
def Settings.tokenBlank : Settings :=
  { Settings.default with generation := { Generation.default with token := some " " } }

/-- Every model gives the same long answer. -/
def Completion.talkative : Network := fun _ =>
  .reply 200 (Utf8.encode ("[\x7b\"generated_text\":\"" ++ List.replicate 200 'x' ++ "\"\x7d]"))

theorem tokenBlank_eq_disabled :
    let generation := Settings.tokenBlank.generation
    (Route.default.chain Completion.talkative generation).outcome "Review." = .exhausted 4 ∧
    Route.default.requests generation "Review." = [] ∧
    ((Service.ofSettings Completion.talkative (Settings.tokenBlank.generating true)).answer
        (Service.submitted "Py")).response =
      ((Service.ofSettings Completion.talkative (Settings.tokenBlank.generating false)).answer
        (Service.submitted "Py")).response := by
  have hblank : Unfilled Settings.tokenBlank.generation.token := by
    rintro _ ⟨⟩
    rfl
  obtain ⟨hroute, hanswer⟩ :=
    tokenless_eq_disabled Completion.talkative Settings.tokenBlank hblank
  obtain ⟨houtcome, -, hrequests, -⟩ := hroute Route.default "Review."
  exact ⟨houtcome, hrequests, hanswer (Service.submitted "Py")⟩

end Critique
