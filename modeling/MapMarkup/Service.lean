/-!
# Service settings

What a service is told once and every document depends on.
-/

namespace MapMarkup

structure Service where
  baseUrl : String := "http://localhost:8080/geoserver/"
  multiExtent : Bool := false
  imageFormat : String := "image/png"
deriving Repr, DecidableEq

namespace Service

def dropTrailingSlashes (cs : List Char) : List Char :=
  (cs.reverse.dropWhile (· = '/')).reverse

/-- The base of service URLs, ending in one slash; within a workspace when a nonempty one is given.
-/
def base (s : Service) (workspace : Option String) : String :=
  let root := String.ofList (dropTrailingSlashes s.baseUrl.toList ++ ['/'])
  match workspace with
  | some w => if w = "" then root else root ++ w ++ "/"
  | none => root

end Service

end MapMarkup
