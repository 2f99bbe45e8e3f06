import Critique.Http.MediaType
import Critique.Service.Answer

/-!
# Routes

Which request is answered how. A request goes to the endpoint at its path; one that comes with
another method, another type of body, too long a body or a body that is no request is turned down
before anything is read from the submission. Requests for the rules of sharing between origins are
answered at every path.
-/

namespace Critique

open Http (Request Response)

inductive Endpoint where
  | health
  | analysis (kind : Kind)
  | explanation
  deriving DecidableEq, Repr

namespace Endpoint

def all : List Endpoint :=
  [.health, .analysis .review, .analysis .bugs, .analysis .optimize, .explanation]

def path : Endpoint → Text
  | .health => "/api/health"
  | .analysis .review => "/api/review"
  | .analysis .bugs => "/api/bugtest"
  | .analysis .optimize => "/api/optimize"
  | .explanation => "/api/learn"

def ofPath? (path : Text) : Option Endpoint := all.find? (·.path == path)

def methods : Endpoint → List Text
  | .health => ["GET", "HEAD"]
  | .analysis _ | .explanation => ["POST"]

def allow (endpoint : Endpoint) : Http.Header := ("allow", Text.joinWith [','] endpoint.methods)

end Endpoint

inductive Rejection where
  | notJson
  | tooLarge
  | flawed (flaw : Flaw)
  deriving DecidableEq, Repr

namespace Rejection

def status : Rejection → Nat
  | .notJson => 415
  | .tooLarge => 413
  | .flawed .ungrammatical => 400
  | .flawed .misfit => 422

def message : Rejection → Text
  | .notJson => "The request has no body of type application/json."
  | .tooLarge => "The body of the request is too large."
  | .flawed .ungrammatical => "The body of the request is not JSON."
  | .flawed .misfit => "The body of the request does not have the expected fields."

def response (rejection : Rejection) : Response := .text rejection.status rejection.message

end Rejection

namespace Service

/-- Longest body that is read, in bytes. -/
def longestBody : Nat := 10 * 1024 * 1024

/-- Reads the body of a request that says it is JSON. -/
def receive {α : Type} (request : Request) (read : Utf8.Bytes → Except Flaw α) :
    Except Rejection α :=
  if !(request.header? "content-type").any Http.announcesJson then .error .notJson
  else if longestBody < request.body.length then .error .tooLarge
  else (read request.body).mapError .flawed

def answerReceived {α : Type} (answer : α → Answer) : Except Rejection α → Answer
  | .ok received => answer received
  | .error rejection => .silent rejection.response

def health : Response := .json 200 (.object [
  ("message", .string "API is running"),
  ("status", .string "OK")])

/-- The answer of an endpoint to a method it answers to. -/
def answerAt (service : Service) (request : Request) : Endpoint → Answer
  | .health => .silent (if request.method = "HEAD" then health.headersOnly else health)
  | .analysis kind =>
    answerReceived (service.answerCode kind) (receive request CodeRequest.ofBody)
  | .explanation => answerReceived service.answerTopic (receive request TopicRequest.ofBody)

/-! ## Sharing between origins -/

/-- The origin that may read responses: any, if a star is set, or else the one that is set, if a
header can hold it. -/
def sharedWith? (server : Server) : Option Text :=
  if Text.trim server.origin = "*" then some "*"
  else if Http.isHeaderValue server.origin then some server.origin
  else none

def originWarnings (server : Server) : List Warning :=
  if (sharedWith? server).isNone then [.invalidOrigin server.origin] else []

def sharingHeaders (server : Server) : List Http.Header :=
  (sharedWith? server).toList.map fun origin => ("access-control-allow-origin", origin)

def sharingRules : Response where
  status := 200
  headers := [
    ("access-control-allow-methods", "GET,POST"),
    ("access-control-allow-headers", "content-type")]
  content := .empty

/-! ## All requests -/

def notFound : Response := ⟨404, [], .empty⟩

def methodNotAllowed : Response := ⟨405, [], .empty⟩

/-- The answer before the origin that may read it is told. -/
def route (service : Service) (request : Request) : Answer :=
  match Endpoint.ofPath? request.path with
  | none => .silent (if request.method = "OPTIONS" then sharingRules else notFound)
  | some endpoint =>
    if endpoint.methods.contains request.method then service.answerAt request endpoint
    else
      let response := if request.method = "OPTIONS" then sharingRules else methodNotAllowed
      .silent (response.adding [endpoint.allow])

def answer (service : Service) (request : Request) : Answer :=
  let answer := service.route request
  { answer with response := answer.response.adding (sharingHeaders service.server) }

end Service

end Critique
