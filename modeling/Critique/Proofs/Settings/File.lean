import Critique.Settings.Discovery

/-!
# What a settings file sets

A document whose groups of settings are tables sets what stands at the paths of its keys.
`Settings.Grouped.source`: each setting is read from its own path, or keeps its default where
nothing stands there. What a route keeps depends on whether the file holds a table of the route.
-/

namespace Critique

open Toml (Value)

-- ---------------------------------------------------------------------------
-- Entries of a file
-- ---------------------------------------------------------------------------

namespace Toml.Value

def isTable : Value → Bool
  | .table _ => true
  | _ => false

def member? (key : Text) : Value → Option Value
  | .table members => members.lookup key
  | _ => none

end Toml.Value

namespace Setting

variable {α β : Type} {read : Value → Option α} {usual value : α} {item? : Option Value}

/-- What stands in a file at the end of a path of keys. -/
def entry (file : Option Value) (path : List Text) : Option Value :=
  path.foldl (fun value key => value.bind (·.member? key)) file

/-- An entry that is there is read, and one that is missing leaves what is usual. -/
inductive Given (read : Value → Option α) (usual : α) : Option Value → α → Prop where
  | set {entry : Value} {value : α} : read entry = some value → Given read usual (some entry) value
  | missing : Given read usual none usual

theorem orKeep_eq_some_iff :
    orKeep usual read item? = some value ↔ Given read usual item? value := by
  constructor
  · intro h
    cases item? with
    | none =>
      cases h
      exact .missing
    | some entry => exact .set h
  · rintro (h | _)
    · exact h
    · rfl

theorem bind_orKeep_eq_some_iff {f : α → Option β} {result : β} :
    orKeep usual read item? >>= f = some result ↔
      ∃ value, Given read usual item? value ∧ f value = some result := by
  simp only [Option.bind_eq_bind, Option.bind_eq_some_iff, orKeep_eq_some_iff]

theorem bind_group_table (names : List Text) (members : List (Text × Value))
    (f : List (Option Value) → Option α) :
    group names (.table members) >>= f = f (names.map fun name => members.lookup name) := rfl

theorem Given.unique {other : α} (h : Given read usual item? value)
    (ho : Given read usual item? other) : value = other := by
  rw [← orKeep_eq_some_iff] at h ho
  exact Option.some.inj (h.symm.trans ho)

/-- A group is read as a table, and one that is missing is what is usual. -/
theorem Given.source {readGroup : Value → Option β} {usual value : β}
    (h : Given readGroup usual item? value) (ht : item?.all Value.isTable = true)
    (Source : Option Value → β → Prop) (hmissing : Source none usual)
    (htable : ∀ members, readGroup (.table members) = some value →
      Source (some (.table members)) value) : Source item? value := by
  cases h with
  | missing => exact hmissing
  | @set group _ h =>
    cases group with
    | table members => exact htable members h
    | _ => cases ht

end Setting

open Setting

-- ---------------------------------------------------------------------------
-- Groups
-- ---------------------------------------------------------------------------

/-- What a group sets of a server. -/
structure Server.Source (group? : Option Value) (server : Server) : Prop where
  host : Given text Server.default.host (entry group? ["host"]) server.host
  port : Given (below 65536) Server.default.port (entry group? ["port"]) server.port
  origin : Given text Server.default.origin (entry group? ["cors_origin"]) server.origin

theorem Server.source {group? : Option Value} {server : Server}
    (h : Given Server.ofValue? .default group? server) (ht : group?.all Value.isTable = true) :
    Server.Source group? server := by
  refine h.source ht Source ⟨.missing, .missing, .missing⟩ fun members h => ?_
  simp only [Server.ofValue?, bind_group_table, List.map, bind_orKeep_eq_some_iff,
    Option.pure_def, Option.some.injEq] at h
  obtain ⟨host, hhost, port, hport, origin, horigin, rfl⟩ := h
  exact ⟨hhost, hport, horigin⟩

theorem Limits.source {group? : Option Value} {limits : Limits}
    (h : Given Limits.ofValue? .default group? limits) (ht : group?.all Value.isTable = true) :
    Given natural Limits.default.maxCodeChars (entry group? ["max_code_chars"])
      limits.maxCodeChars := by
  refine h.source ht (fun group? limits => Given natural Limits.default.maxCodeChars
    (entry group? ["max_code_chars"]) limits.maxCodeChars) .missing fun members h => ?_
  simp only [Limits.ofValue?, bind_group_table, List.map, bind_orKeep_eq_some_iff,
    Option.pure_def, Option.some.injEq] at h
  obtain ⟨maxCodeChars, hmax, rfl⟩ := h
  exact hmax

/-- What a group sets of the use of text generators, among which is no token. -/
structure Generation.Source (group? : Option Value) (generation : Generation) : Prop where
  enabled : Given boolean Generation.default.enabled (entry group? ["enabled"]) generation.enabled
  minChars : Given natural Generation.default.acceptance.minChars (entry group? ["min_chars"])
    generation.acceptance.minChars
  sentinel : Given text Generation.default.acceptance.sentinel (entry group? ["loading_sentinel"])
    generation.acceptance.sentinel
  tokenVariable : Given text Generation.default.tokenVariable (entry group? ["token_env"])
    generation.tokenVariable
  token : generation.token = none

theorem Generation.source {group? : Option Value} {generation : Generation}
    (h : Given Generation.ofValue? .default group? generation)
    (ht : group?.all Value.isTable = true) : Generation.Source group? generation := by
  refine h.source ht Source ⟨.missing, .missing, .missing, .missing, rfl⟩ fun members h => ?_
  simp only [Generation.ofValue?, bind_group_table, List.map, bind_orKeep_eq_some_iff,
    Option.pure_def, Option.some.injEq] at h
  obtain ⟨enabled, he, minChars, hm, sentinel, hs, tokenVariable, ht, rfl⟩ := h
  exact ⟨he, hm, hs, ht, rfl⟩

/-- What a group sets of a sampling that is completed from another. -/
structure Completion.Sampling.Source (usual : Completion.Sampling) (group? : Option Value)
    (sampling : Completion.Sampling) : Prop where
  maxNewTokens : Given (below (Nat.pow 2 32)) usual.maxNewTokens (entry group? ["max_new_tokens"])
    sampling.maxNewTokens
  temperature : Given single usual.temperature (entry group? ["temperature"]) sampling.temperature
  topP : Given single usual.topP (entry group? ["top_p"]) sampling.topP
  repetitionPenalty : Given single usual.repetitionPenalty (entry group? ["repetition_penalty"])
    sampling.repetitionPenalty
  topK : Given (fun value => (below (Nat.pow 2 32) value).map some) usual.topK
    (entry group? ["top_k"]) sampling.topK
  doSample : Given boolean usual.doSample (entry group? ["do_sample"]) sampling.doSample

theorem Completion.Sampling.source_missing (usual : Completion.Sampling) :
    Completion.Sampling.Source usual none usual :=
  ⟨.missing, .missing, .missing, .missing, .missing, .missing⟩

theorem Completion.Sampling.source {group? : Option Value} {sampling : Completion.Sampling}
    (h : Given Completion.Sampling.ofValue? .default group? sampling)
    (ht : group?.all Value.isTable = true) :
    Completion.Sampling.Source .default group? sampling := by
  refine h.source ht (Source .default) (source_missing _) fun members h => ?_
  simp only [Completion.Sampling.ofValue?, bind_group_table, List.map, bind_orKeep_eq_some_iff,
    Option.pure_def, Option.some.injEq] at h
  obtain ⟨_, hmax, _, ht, _, hp, _, hr, _, hk, _, hd, rfl⟩ := h
  exact ⟨hmax, ht, hp, hr, hk, hd⟩

theorem Completion.Sampling.Source.unique {usual sampling other : Completion.Sampling}
    {group? : Option Value} (h : Source usual group? sampling) (ho : Source usual group? other) :
    sampling = other := by
  obtain ⟨maxNewTokens, temperature, topP, repetitionPenalty, topK, doSample⟩ := sampling
  obtain rfl : maxNewTokens = other.maxNewTokens := h.maxNewTokens.unique ho.maxNewTokens
  obtain rfl : temperature = other.temperature := h.temperature.unique ho.temperature
  obtain rfl : topP = other.topP := h.topP.unique ho.topP
  obtain rfl : repetitionPenalty = other.repetitionPenalty :=
    h.repetitionPenalty.unique ho.repetitionPenalty
  obtain rfl : topK = other.topK := h.topK.unique ho.topK
  obtain rfl : doSample = other.doSample := h.doSample.unique ho.doSample
  rfl

/-- What a group sets of a route that is completed from another. -/
structure Route.Source (usual : Route) (group? : Option Value) (route : Route) : Prop where
  addresses : Given texts usual.addresses (entry group? ["providers"]) route.addresses
  timeout : Given natural usual.timeout (entry group? ["timeout_secs"]) route.timeout
  sampling : Completion.Sampling.Source usual.sampling (entry group? ["options"]) route.sampling

/-- A route with no table is the usual one of its kind, and one with a table is completed from the
general route. -/
theorem Route.source {own route : Route} {group? : Option Value}
    (h : Given Route.ofValue? own group? route) (ht : group?.all Value.isTable = true)
    (hs : (entry group? ["options"]).all Value.isTable = true) :
    Route.Source (if group?.isSome then .default else own) group? route := by
  have htable : ∀ members, Route.ofValue? (.table members) = some route →
      (entry (some (.table members)) ["options"]).all Value.isTable = true →
      Route.Source .default (some (.table members)) route := by
    intro members h hs
    simp only [Route.ofValue?, bind_group_table, List.map, bind_orKeep_eq_some_iff,
      Option.pure_def, Option.some.injEq] at h
    obtain ⟨addresses, ha, timeout, ht, sampling, hsampling, rfl⟩ := h
    exact ⟨ha, ht, Completion.Sampling.source hsampling hs⟩
  cases h with
  | missing => exact ⟨.missing, .missing, Completion.Sampling.source_missing _⟩
  | @set group _ h =>
    cases group with
    | table members => exact htable members h hs
    | _ => cases ht

theorem Route.Source.unique {usual route other : Route} {group? : Option Value}
    (h : Source usual group? route) (ho : Source usual group? other) : route = other := by
  obtain ⟨addresses, timeout, sampling⟩ := route
  obtain rfl : addresses = other.addresses := h.addresses.unique ho.addresses
  obtain rfl : timeout = other.timeout := h.timeout.unique ho.timeout
  obtain rfl : sampling = other.sampling := h.sampling.unique ho.sampling
  rfl

/-- The kinds of routes, by name. -/
def Routes.kinds : List (Text × (Routes → Route)) :=
  [("review", review), ("bugs", bugs), ("optimize", optimize), ("learn", learn)]

theorem Routes.eq_of_kinds {routes other : Routes}
    (h : ∀ kind ∈ kinds, kind.2 routes = kind.2 other) : routes = other := by
  obtain ⟨review, bugs, optimize, learn⟩ := routes
  simp only [kinds, List.forall_mem_cons] at h
  obtain ⟨rfl, rfl, rfl, rfl, -⟩ := h
  rfl

theorem Routes.source {group? : Option Value} {routes : Routes}
    (h : Given Routes.ofValue? .default group? routes) (ht : group?.all Value.isTable = true) :
    ∀ kind ∈ Routes.kinds,
      Given Route.ofValue? (kind.2 .default) (entry group? [kind.1]) (kind.2 routes) := by
  refine h.source ht (fun group? routes => ∀ kind ∈ Routes.kinds,
    Given Route.ofValue? (kind.2 .default) (entry group? [kind.1]) (kind.2 routes))
    (fun kind _ => .missing) fun members h => ?_
  simp only [Routes.ofValue?, bind_group_table, List.map, bind_orKeep_eq_some_iff,
    Option.pure_def, Option.some.injEq] at h
  obtain ⟨review, hr, bugs, hb, optimize, ho, learn, hl, rfl⟩ := h
  simp only [kinds, List.forall_mem_cons]
  exact ⟨hr, hb, ho, hl, by simp⟩

theorem disabled_source {group? : Option Value} {disabled : List Text}
    (h : Given disabledOfValue? [] group? disabled) (ht : group?.all Value.isTable = true) :
    Given texts [] (entry group? ["disabled"]) disabled := by
  refine h.source ht (fun group? disabled =>
    Given texts [] (entry group? ["disabled"]) disabled) .missing fun members h => ?_
  simp only [disabledOfValue?, bind_group_table, List.map, orKeep_eq_some_iff] at h
  exact h

-- ---------------------------------------------------------------------------
-- Files
-- ---------------------------------------------------------------------------

namespace Settings

def groupNames : List Text := ["server", "limits", "ai", "gateway", "rules"]

/-- A file in which all groups of settings that are there are tables. -/
def OfTables (file : Option Value) : Prop :=
  (∀ name ∈ groupNames, (entry file [name]).all Value.isTable = true) ∧
    ∀ kind ∈ Routes.kinds, (entry file ["gateway", kind.1]).all Value.isTable = true ∧
      (entry file ["gateway", kind.1, "options"]).all Value.isTable = true

instance (file : Option Value) : Decidable (OfTables file) :=
  inferInstanceAs (Decidable
    ((∀ name ∈ groupNames, (entry file [name]).all Value.isTable = true) ∧
      ∀ kind ∈ Routes.kinds, (entry file ["gateway", kind.1]).all Value.isTable = true ∧
        (entry file ["gateway", kind.1, "options"]).all Value.isTable = true))

/-- What the groups of a file set, each as a whole. -/
structure Grouped (file : Option Value) (settings : Settings) : Prop where
  server : Given Server.ofValue? .default (entry file ["server"]) settings.server
  limits : Given Limits.ofValue? .default (entry file ["limits"]) settings.limits
  generation : Given Generation.ofValue? .default (entry file ["ai"]) settings.generation
  routes : Given Routes.ofValue? .default (entry file ["gateway"]) settings.routes
  disabledRules : Given disabledOfValue? [] (entry file ["rules"]) settings.disabledRules

/-- What a file sets. -/
structure Source (file : Option Value) (settings : Settings) : Prop where
  server : Server.Source (entry file ["server"]) settings.server
  maxCodeChars : Given natural Limits.default.maxCodeChars (entry file ["limits", "max_code_chars"])
    settings.limits.maxCodeChars
  generation : Generation.Source (entry file ["ai"]) settings.generation
  routes : ∀ kind ∈ Routes.kinds, Route.Source
    (if (entry file ["gateway", kind.1]).isSome then .default else kind.2 .default)
    (entry file ["gateway", kind.1]) (kind.2 settings.routes)
  disabledRules : Given texts [] (entry file ["rules", "disabled"]) settings.disabledRules

theorem Grouped.source {file : Option Value} {settings : Settings} (h : Grouped file settings)
    (ht : OfTables file) : Source file settings := by
  obtain ⟨hgroups, hkinds⟩ := ht
  simp only [groupNames, List.forall_mem_cons] at hgroups
  obtain ⟨hserver, hlimits, hgeneration, hroutes, hdisabled, -⟩ := hgroups
  refine ⟨Server.source h.server hserver, Limits.source h.limits hlimits,
    Generation.source h.generation hgeneration, fun kind hk => ?_,
    disabled_source h.disabledRules hdisabled⟩
  obtain ⟨htable, hoptions⟩ := hkinds kind hk
  exact Route.source (Routes.source h.routes hroutes kind hk) htable hoptions

variable {tree : Tree} {folder start : Text} {named : Option Text} {settings : Settings}

end Settings

end Critique
