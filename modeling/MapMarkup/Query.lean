import MapMarkup.Text.Percent

/-!
# Query strings

The parameters that a URL carries after its question mark: `Query.pairs` reads them from a query
string or from a whole URL, `Query.url` writes them behind an endpoint.
-/

namespace MapMarkup.Query

/-- The query string of a text that may be a whole URL: question marks at the start are dropped, and
then everything up to the first one. -/
def ofUrl (cs : List Char) : List Char :=
  let cs := cs.dropWhile (· = '?')
  match Text.splitFirst '?' cs with
  | some (_, query) => query
  | none => cs

/-- The parameters of a query string or of a whole URL, decoded and in order. -/
def pairs (text : String) : List (String × String) :=
  Text.formPairs (ofUrl text.toList)

def parameter (p : String × String) : List Char :=
  p.1.toList ++ '=' :: Text.percentChars p.2.toList

def url (endpoint : String) (params : List (String × String)) : String :=
  String.ofList (endpoint.toList ++ '?' :: Text.joinFields '&' (params.map parameter))

end MapMarkup.Query
