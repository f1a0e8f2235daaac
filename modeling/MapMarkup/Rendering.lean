import MapMarkup.Document.Json
import MapMarkup.Document.Markup
import MapMarkup.ExceptionReport
import MapMarkup.GetMap.Canonical
import MapMarkup.Publisher

/-!
# Rendering queries

From the query string of a map request to the text of its answer.
-/

namespace MapMarkup

/-- The forms that an answer can have. -/
inductive Form where
  | markup
  | page
  | json
deriving Repr, DecidableEq

namespace Form

def ofOutput : Output → Form
  | .document => markup
  | .preview => page

def word : Form → String
  | markup => "mapml"
  | page => "html"
  | json => "json"

def all : List Form := [markup, page, json]

def ofWord? (word : String) : Option Form :=
  all.find? fun f => f.word = word

def mediaType : Form → String
  | markup => documentType
  | page => previewType
  | json => "application/json"

end Form

structure Answer where
  mediaType : String
  body : String

namespace Publisher

def body (p : Publisher) (r : Request) : Form → Except ServiceError String
  | .markup => (p.document r).map Document.markup
  | .page => p.preview r
  | .json => (p.document r).map fun d => d.toJson.indented

/-- The answer to a query, addressed to a workspace if one is given; a form that is given goes
before the one of the request. -/
def answer (p : Publisher) (query : String) (workspace : Option String) (form : Option Form) :
    Except ServiceError Answer := do
  let parameters ← Parameters.read query
  let asked ← parameters.toRequest
  let r := match workspace with
    | some w => asked.withWorkspace w
    | none => asked
  let form := form.getD (Form.ofOutput asked.output)
  return ⟨form.mediaType, ← p.body r form⟩

end Publisher

end MapMarkup
