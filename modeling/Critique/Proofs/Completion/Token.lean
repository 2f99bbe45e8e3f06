import Critique.Proofs.Completion.Chain
import Critique.Proofs.Submission
import Critique.Service.Basic

/-!
# Endpoints without a token

An endpoint reaches the network through the request that it sends, and it sends none without a
token. `attempts_congr`: what a route comes to depends on the network at its requests alone. A route
without a token is therefore exhausted whatever the network does, with one warning for each of its
endpoints.
-/

namespace Critique

namespace Completion

variable {network : Network} {sampling : Sampling} {timeout : Duration} {token : Option Text}
  {address prompt : Text}

/-- The request that is sent to an endpoint, if there is one. -/
def sent? (sampling : Sampling) (token : Option Text) (address prompt : Text) : Option Request :=
  ((usable token).map fun token => request sampling address token prompt).filter fun request =>
    Http.isHeaderValue request.authorization

/-- What an exchange comes to. -/
def received (timeout : Duration) : Exchange → Except Fault Text
  | .reply status body => decodeReply parseText? status (Utf8.decodeLossy body)
  | .silence => .error (.timeout timeout)
  | .broken => .error .transport

/-- The network is asked for the request that is sent, and for nothing else. -/
theorem ask_eq : ask network sampling timeout token address prompt =
    match sent? sampling token address prompt with
    | some request => received timeout (network request)
    | none => .error (if (usable token).isNone then .missingCredential else .transport) := by
  unfold ask sent?
  cases usable token with
  | none => rfl
  | some token =>
    cases hv : Http.isHeaderValue (request sampling address token prompt).authorization with
    | false => simp [Option.filter, hv]
    | true =>
      simp only [Option.map_some, Option.filter, hv, if_true, Bool.not_true, Bool.false_eq_true,
        if_false]
      cases network (request sampling address token prompt) <;> rfl

theorem ask_congr {other : Network}
    (h : ∀ request, sent? sampling token address prompt = some request →
      network request = other request) :
    ask network sampling timeout token address prompt =
      ask other sampling timeout token address prompt := by
  rw [ask_eq, ask_eq]
  cases hs : sent? sampling token address prompt with
  | none => rfl
  | some request => simp only [h request hs]

/-- Chains make the same attempts when their providers come to the same one by one. -/
theorem Chain.attemptsOf_map_congr {α : Type} {chain other : Chain} {f g : α → Provider}
    {items : List α}
    (h : ∀ item ∈ items, chain.attempt prompt (f item) = other.attempt prompt (g item)) :
    chain.attemptsOf prompt (items.map f) = other.attemptsOf prompt (items.map g) := by
  induction items with
  | nil => rfl
  | cons item items ih =>
    obtain ⟨hitem, hitems⟩ := List.forall_mem_cons.mp h
    simp only [List.map_cons, attemptsOf, hitem, ih hitems]

-- ---------------------------------------------------------------------------
-- No token
-- ---------------------------------------------------------------------------

theorem usable_of_unfilled (h : Unfilled token) : usable token = none := nonBlank_of_unfilled h

theorem sent?_of_unfilled (h : Unfilled token) : sent? sampling token address prompt = none := by
  rw [sent?, usable_of_unfilled h]
  rfl

theorem ask_of_unfilled (h : Unfilled token) :
    ask network sampling timeout token address prompt = .error .missingCredential := by
  simp only [ask_eq, sent?_of_unfilled h, usable_of_unfilled h]
  rfl

/-- The network has no part in an endpoint without a token. -/
theorem endpoint_of_unfilled (h : Unfilled token) :
    endpoint network sampling timeout token =
      fun address => ⟨modelId address, fun _ => .fault .missingCredential⟩ := by
  funext address
  simp only [endpoint, ask_of_unfilled h, Reply.ofResult]

theorem passesOver_of_unfilled (h : Unfilled token) (chain : Chain) :
    chain.PassesOver prompt (endpoint network sampling timeout token address)
      .missingCredential := by
  rw [endpoint_of_unfilled h]
  exact .fault rfl

end Completion

namespace Route

open Completion

variable {network : Network} {generation : Generation}

/-- The requests that the endpoints of a route send for a prompt when all of them are asked. -/
def requests (route : Route) (generation : Generation) (prompt : Text) : List Request :=
  route.addresses.filterMap fun address => sent? route.sampling generation.token address prompt

/-- A route depends on the network through its requests alone. -/
theorem attempts_congr (route : Route) {other : Network} {prompt : Text}
    (h : ∀ request ∈ route.requests generation prompt, network request = other request) :
    (route.chain network generation).attempts prompt =
      (route.chain other generation).attempts prompt := by
  have hattempt : ∀ address ∈ route.addresses,
      (route.chain network generation).attempt prompt
          (endpoint network route.sampling (.ofSeconds route.timeout) generation.token address) =
        (route.chain other generation).attempt prompt
          (endpoint other route.sampling (.ofSeconds route.timeout) generation.token address) := by
    intro address haddress
    have hask : ask network route.sampling (.ofSeconds route.timeout) generation.token address
          prompt =
        ask other route.sampling (.ofSeconds route.timeout) generation.token address prompt :=
      ask_congr fun request hs => h request (List.mem_filterMap.mpr ⟨address, haddress, hs⟩)
    simp only [Chain.attempt, endpoint, hask]
    rfl
  exact Chain.attemptsOf_map_congr hattempt

theorem requests_of_unfilled (h : Unfilled generation.token) (route : Route) (prompt : Text) :
    route.requests generation prompt = [] :=
  List.filterMap_eq_nil_iff.mpr fun _ _ => sent?_of_unfilled h

theorem chain_of_unfilled (h : Unfilled generation.token) (route : Route)
    (network other : Network) : route.chain network generation = route.chain other generation := by
  simp only [chain, endpoint_of_unfilled h]

theorem passesOverAll_of_unfilled (network : Network) (h : Unfilled generation.token)
    (route : Route) (prompt : Text) : (route.chain network generation).PassesOverAll prompt
      (route.chain network generation).providers :=
  List.forall_mem_map.mpr fun _ _ => ⟨_, passesOver_of_unfilled h _⟩

theorem attempts_of_unfilled (h : Unfilled generation.token) (route : Route) (prompt : Text) :
    (route.chain network generation).attempts prompt =
      route.addresses.map fun address => ⟨modelId address, .error .missingCredential⟩ := by
  have hpass := passesOverAll_of_unfilled network h route prompt
  rw [Chain.attempts, Chain.attemptsOf_of_passesOver hpass, Route.chain, List.map_map]
  exact List.map_congr_left fun address _ =>
    Chain.attempt_of_passesOver (passesOver_of_unfilled h _)

theorem outcome_of_unfilled (h : Unfilled generation.token) (route : Route) (prompt : Text) :
    (route.chain network generation).outcome prompt = .exhausted route.addresses.length := by
  have hpass := passesOverAll_of_unfilled network h route prompt
  rw [Chain.outcome, Chain.attempts, Chain.attemptsOf_of_passesOver hpass,
    Chain.ofAttempts_of_passesOver hpass, Route.chain, List.length_map]

theorem warnings_of_unfilled (h : Unfilled generation.token) (route : Route) (prompt : Text) :
    Warning.ofAttempts ((route.chain network generation).attempts prompt) =
      route.addresses.map fun address => .providerFailed (modelId address) .missingCredential := by
  rw [attempts_of_unfilled h, Warning.ofAttempts, List.filterMap_map]
  show route.addresses.filterMap (some ∘ _) = _
  rw [List.filterMap_eq_map]

end Route

end Critique
