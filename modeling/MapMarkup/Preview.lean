import MapMarkup.Reprojection
import MapMarkup.Text.Entity

/-!
# Preview pages

A page that shows a document in a viewer. The page is a fixed skeleton with seven slots; texts that
come from outside are escaped before they go into one.
-/

namespace MapMarkup

structure Preview where
  title : String
  tcrs : Tcrs
  bounds : Box
  width : Nat
  height : Nat
  source : String
  script : String

def viewerPath : String := "mapml/viewer/widget/mapml-viewer.js"

/-- The middle of a box in degrees, or the origin if it has no position. -/
def geographicCenter (t : Tcrs) (b : Box) : Point :=
  match transformPoint b.center t.crs .crs84 with
  | .ok p => p
  | .error _ => ⟨0, 0⟩

/-- The page around the values of its slots: title, script, projection, zoom, latitude, longitude
and source, each as it is to stand there. -/
def pageSkeleton (title script projection zoom lat lon source : String) : String :=
  "<!DOCTYPE html>\n<html>\n<head>\n<title>" ++ title ++ "</title>\n<meta charset=\"utf-8\">\n"
    ++ "<meta name=\"viewport\" content=\"width=device-width,initial-scale=1\">\n"
    ++ "<script type=\"module\" src=\"" ++ script ++ "\"></script>\n<style>\n"
    ++ "html, body \x7b height: 100%; margin: 0; \x7d\n"
    ++ "mapml-viewer \x7b width: 100%; height: 100%; \x7d\n</style>\n<noscript>\n<style>\n"
    ++ "mapml-viewer:not(:defined) > :not(layer-) \x7b display: initial; \x7d\n"
    ++ "</style>\n</noscript>\n</head>\n<body>\n<mapml-viewer projection=\"" ++ projection
    ++ "\" zoom=\"" ++ zoom ++ "\" lat=\"" ++ lat ++ "\" lon=\"" ++ lon
    ++ "\" controls controlslist=\"geolocation\">\n<layer- label=\"" ++ title ++ "\" src=\""
    ++ source ++ "\" checked></layer->\n</mapml-viewer>\n</body>\n</html>\n"

def Preview.page (p : Preview) : String :=
  let center := geographicCenter p.tcrs p.bounds
  pageSkeleton (Text.escape p.title) (Text.escape p.script) p.tcrs.name
    (toString (p.tcrs.fittingZoom p.bounds p.width p.height)) (Decimal.text center.y)
    (Decimal.text center.x) (Text.escape p.source)

end MapMarkup
