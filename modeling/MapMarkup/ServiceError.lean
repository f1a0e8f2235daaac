import MapMarkup.Crs

/-!
# Service errors

Everything that can go wrong between a request and its answer, with its wording, the code and the
request parameter that an exception report names, and the HTTP status that goes with it.
-/

namespace MapMarkup

inductive ServiceError where
  | missingParameter (name : String)
  | invalidParameter (name : String) (reason : String)
  | layerNotDefined (layer : String)
  | styleNotDefined (layer : String) (style : String)
  | unsupportedCrs (code : String)
  | invalidBox (reason : String)
  | encodingFailed (reason : String)
  | invalidConfiguration (reason : String)
deriving Repr, DecidableEq

namespace ServiceError

def message : ServiceError → String
  | missingParameter name => "Missing required parameter: " ++ name
  | invalidParameter name reason => "Invalid parameter value for '" ++ name ++ "': " ++ reason
  | layerNotDefined layer => "Could not find layer " ++ layer
  | styleNotDefined layer style => "Style " ++ style ++ " is not available on layer " ++ layer
  | unsupportedCrs code => "This projection is not supported by MapML: " ++ code
  | invalidBox reason => "Invalid BBOX: " ++ reason
  | encodingFailed reason => "Encoding failed: " ++ reason
  | invalidConfiguration reason => "Invalid configuration: " ++ reason

def code : ServiceError → String
  | missingParameter _ => "MissingParameterValue"
  | invalidParameter _ _ | unsupportedCrs _ | invalidBox _ => "InvalidParameterValue"
  | layerNotDefined _ => "LayerNotDefined"
  | styleNotDefined _ _ => "StyleNotDefined"
  | encodingFailed _ | invalidConfiguration _ => "NoApplicableCode"

def locator? : ServiceError → Option String
  | missingParameter name => some (Text.lower name)
  | invalidParameter name _ => some (Text.lower name)
  | layerNotDefined _ => some "layers"
  | styleNotDefined _ _ => some "styles"
  | unsupportedCrs _ => some "crs"
  | invalidBox _ => some "bbox"
  | encodingFailed _ | invalidConfiguration _ => none

def httpStatus : ServiceError → Nat
  | missingParameter _ | invalidParameter _ _ | unsupportedCrs _ | invalidBox _ => 400
  | layerNotDefined _ | styleNotDefined _ _ => 404
  | encodingFailed _ | invalidConfiguration _ => 500

end ServiceError

def BoxFault.toServiceError (fault : BoxFault) : ServiceError :=
  .invalidBox fault.message

def CrsFault.toServiceError : CrsFault → ServiceError
  | unsupported text => .unsupportedCrs text

end MapMarkup
