import Critique.Json.Basic
import Critique.Text.Utf8

/-!
# HTTP messages

Requests as they come in, and the responses to them.
-/

namespace Critique.Http

abbrev Header := Text × Text

def isHeaderValue (t : Text) : Bool := t.all fun c => c == '\t' || (c.toNat ≥ 32 && c.toNat != 127)

/-! ## Requests -/

structure Request where
  method : Text
  target : Text
  headers : List Header
  body : Utf8.Bytes

/-- The first header with a name, given in small letters. -/
def Request.header? (request : Request) (name : Text) : Option Text :=
  (request.headers.find? fun header => header.1.map Char.toLower == name).map (·.2)

def beforeQuery (t : Text) : Text := t.takeWhile fun c => c != '?' && c != '#'

def afterScheme? : Text → Option Text
  | [] => none
  | c :: rest => (Text.after? "://" (c :: rest)).or (afterScheme? rest)

def pathAfterHost (t : Text) : Text :=
  let path := beforeQuery (t.dropWhile fun c => c != '/' && c != '?' && c != '#')
  if path.isEmpty then ['/'] else path

/-- The path that a target names: of an absolute address what follows the host, of a host alone
nothing. -/
def pathOf (target : Text) : Text :=
  if target.head? == some '/' then beforeQuery target
  else ((afterScheme? target).map pathAfterHost).getD []

def Request.path (request : Request) : Text := pathOf request.target

/-! ## Responses -/

inductive Content where
  | empty
  | json (value : Json)
  | text (message : Text)

def Content.headers : Content → List Header
  | .empty => []
  | .json _ => [("content-type", "application/json")]
  | .text _ => [("content-type", "text/plain; charset=utf-8")]

structure Response where
  status : Nat
  headers : List Header
  content : Content

namespace Response

def withContent (status : Nat) (content : Content) : Response := ⟨status, content.headers, content⟩

def json (status : Nat) (value : Json) : Response := withContent status (.json value)

def text (status : Nat) (message : Text) : Response := withContent status (.text message)

def headersOnly (response : Response) : Response := { response with content := .empty }

def adding (headers : List Header) (response : Response) : Response :=
  { response with headers := headers ++ response.headers }

end Response

end Critique.Http
