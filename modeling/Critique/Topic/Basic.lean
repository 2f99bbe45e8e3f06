import Critique.Text.Casing
import Critique.Text.Letters

/-!
# Topics

A topic of a lesson is told by its words. Categories stand in order, and the first with a keyword
that some word fits is the one.
-/

namespace Critique.Topic

inductive Keyword where
  /-- Fits this word and its plurals. -/
  | word (word : Text)
  /-- Fits every word that starts like this. -/
  | stem (start : Text)
  deriving DecidableEq, Repr

/-- What remains of a word without its last letter, if that is the given one. -/
def dropLast? (letter : Char) (word : Text) : Option Text :=
  if word.getLast? = some letter then some word.dropLast else none

def Keyword.fits (w : Text) : Keyword → Bool
  | .stem start => start.isPrefixOf w
  | .word keyword =>
    let singular := dropLast? 's' w
    w == keyword || singular == some keyword || singular.bind (dropLast? 'e') == some keyword

/-- A family of topics and the lesson that serves all of them. -/
structure Category where
  slug : Text
  title : Text
  keywords : List Keyword
  overview : Text
  keyPoints : List Text
  practice : List Text

/-- The pieces between characters that are no letters or digits, empty ones included. -/
def wordPieces (t : Text) : List Text :=
  t.foldr (fun c rest => if Text.isAlphanumeric c then Text.consPiece c rest else [] :: rest) [[]]

def words (topic : Text) : List Text := (wordPieces (Text.lower topic)).filter (!·.isEmpty)

def Category.covers (words : List Text) (category : Category) : Bool :=
  category.keywords.any fun keyword => words.any keyword.fits

end Critique.Topic
