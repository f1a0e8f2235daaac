import MapMarkup.ServiceError
import MapMarkup.Text.Entity

/-!
# Exception reports

The XML text that tells a client what is wrong with its request.
-/

namespace MapMarkup

def exceptionType : String := "application/vnd.ogc.se_xml"

def ServiceError.report (e : ServiceError) : String :=
  let locator := match e.locator? with
    | some l => " locator=\"" ++ Text.escape l ++ "\""
    | none => ""
  "<?xml version=\"1.0\" encoding=\"UTF-8\"?>"
    ++ "<ServiceExceptionReport version=\"1.3.0\" xmlns=\"http://www.opengis.net/ogc\">"
    ++ "<ServiceException code=\"" ++ e.code ++ "\"" ++ locator ++ ">" ++ Text.escape e.message
    ++ "</ServiceException>" ++ "</ServiceExceptionReport>"

end MapMarkup
