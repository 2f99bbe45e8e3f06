import Critique.Assessment
import Critique.Settings.Basic
import Critique.Warning

/-!
# The service

What every request is answered from. Nothing in it changes between requests.
-/

namespace Critique

/-- The providers that are asked for each kind of answer. -/
structure Chains where
  review : Completion.Chain
  bugs : Completion.Chain
  optimize : Completion.Chain
  learn : Completion.Chain

def Completion.Chain.empty : Completion.Chain := ⟨[], .ofSeconds 1, .default⟩

def Route.chain (network : Completion.Network) (generation : Generation) (route : Route) :
    Completion.Chain where
  providers := route.addresses.map
    (Completion.endpoint network route.sampling (.ofSeconds route.timeout) generation.token)
  timeout := .ofSeconds route.timeout
  acceptance := generation.acceptance

namespace Chains

def empty : Chains := ⟨.empty, .empty, .empty, .empty⟩

def ofRoutes (network : Completion.Network) (generation : Generation) (routes : Routes) :
    Chains where
  review := routes.review.chain network generation
  bugs := routes.bugs.chain network generation
  optimize := routes.optimize.chain network generation
  learn := routes.learn.chain network generation

def ofKind (chains : Chains) : Kind → Completion.Chain
  | .review => chains.review
  | .bugs => chains.bugs
  | .optimize => chains.optimize

end Chains

structure Service where
  catalog : Catalog
  chains : Chains
  limits : Limits
  server : Server

namespace Service

def ofSettings (network : Completion.Network) (settings : Settings) : Service where
  catalog := Catalog.all.without settings.disabledRules
  chains :=
    if settings.generation.enabled then .ofRoutes network settings.generation settings.routes
    else .empty
  limits := settings.limits
  server := settings.server

/-- Warns about generation that cannot work for want of a token. -/
def tokenWarnings (generation : Generation) : List Warning :=
  if generation.enabled && generation.token.isNone then [.noToken generation.tokenVariable] else []

/-- What there is to say when the service of some settings is made. -/
def settingsWarnings (settings : Settings) : List Warning :=
  (Catalog.all.unknown settings.disabledRules).map .unknownRule ++
    tokenWarnings settings.generation

end Service

end Critique
