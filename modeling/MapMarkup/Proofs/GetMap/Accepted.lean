import MapMarkup.GetMap.Canonical
import MapMarkup.Proofs.Box.Axes
import MapMarkup.Proofs.GetMap.Checked
import MapMarkup.Proofs.TiledCrs

/-!
# Which parameters make a request

Eight of the parameters can be wrong. They are looked at one after the other (`Parameter.checked`),
and for each of them `Parameters.Meets` says what it must be and `Parameters.Complains` how a
request is refused when it is not. `Parameters.toRequest_decides` puts this together: parameters
make a request exactly when all of them are as they must be, and otherwise the error is about the
first one that is not.
-/

namespace MapMarkup

/-! ### What parameters must be -/

def Parameter.checked : List Parameter :=
  [.service, .request, .layers, .crs, .bbox, .width, .height, .format]

/-- The text is a positive number of 32 bits, in digits, with or without a plus sign and blanks
around it. -/
def IsSize (text : String) : Prop :=
  ∃ digits, (Text.trimChars text.toList = digits ∨ Text.trimChars text.toList = '+' :: digits)
    ∧ digits ≠ [] ∧ (∀ c ∈ digits, c.isDigit = true)
    ∧ 0 < Decimal.digitsValue digits ∧ Decimal.digitsValue digits ≤ Parameters.greatestSize

def mediaName (text : String) : List Char :=
  Text.trimChars (text.toList.takeWhile (· ≠ ';'))

namespace Parameters

/-- What a parameter must be for a request to be made. -/
def Meets (p : Parameters) : Parameter → Prop
  | .service => ∀ text ∈ p.service, Text.sameLetters text "WMS" = true
  | .request => ∀ text ∈ p.request, Text.sameLetters text "GetMap" = true
  | .layers => ∃ list ∈ p.layers, ∃ token ∈ Text.fields ',' list, Text.allBlank token = false
  | .crs => ∃ code ∈ p.crsIn (p.version.getD "1.3.0"),
      (∃ t, Tcrs.ofText? code = some t) ∨ ∃ crs, Crs.ofText code = .ok crs
  | .bbox => ∀ text ∈ p.bbox, Box.IsWritten text
  | .width => ∃ text ∈ p.width, IsSize text
  | .height => ∃ text ∈ p.height, IsSize text
  | .format => ∀ text ∈ p.format,
      ∃ name ∈ ["text/mapml", "text/html"], (mediaName text).map Char.toLower = name.toList
  | .version | .styles | .srs | .formatOptions | .language | .transparent => True

def ComplainsOfSize (name : String) (value : Option String) (e : ServiceError) : Prop :=
  (value = none ∧ e = .missingParameter name)
    ∨ ∃ text ∈ value, e = .invalidParameter name
      (name ++ " must be a positive integer, got '" ++ text ++ "'")

/-- The errors that a parameter is refused with when it is not what it must be. -/
def Complains (p : Parameters) : Parameter → ServiceError → Prop
  | .service, e => e = .invalidParameter "SERVICE" "SERVICE must be WMS"
  | .request, e => ∃ text ∈ p.request,
      e = .invalidParameter "REQUEST" ("Unsupported request for MapML output: " ++ text)
  | .layers, e => e = .missingParameter "LAYERS"
  | .crs, e => (p.crs = none ∧ p.srs = none ∧ e = .missingParameter "CRS")
      ∨ ∃ code ∈ p.crsIn (p.version.getD "1.3.0"), e = .unsupportedCrs code
  | .bbox, e => ∃ text ∈ p.bbox, ∃ order fault,
      Box.ofParam text order = .error fault ∧ e = .invalidBox fault.message
  | .width, e => ComplainsOfSize "WIDTH" p.width e
  | .height, e => ComplainsOfSize "HEIGHT" p.height e
  | .format, e => ∃ text ∈ p.format,
      e = .invalidParameter "FORMAT" ("Unsupported format for MapML output: " ++ text)
  | .version, _ | .styles, _ | .srs, _ | .formatOptions, _ | .language, _ | .transparent, _ => False

theorem Complains.locator {p : Parameters} {f : Parameter} {e : ServiceError}
    (h : p.Complains f e) : e.locator? = some (Text.lower f.name) := by
  cases f
  case service =>
    cases h
    rfl
  case request =>
    obtain ⟨_, _, rfl⟩ := h
    rfl
  case layers =>
    cases h
    rfl
  case crs =>
    have hname : Text.lower "CRS" = "crs" := by decide +kernel
    rcases h with ⟨_, _, rfl⟩ | ⟨_, _, rfl⟩
    · rfl
    · exact congrArg some hname.symm
  case bbox =>
    have hname : Text.lower "BBOX" = "bbox" := by decide +kernel
    obtain ⟨_, _, _, _, _, rfl⟩ := h
    exact congrArg some hname.symm
  case width | height =>
    rcases h with ⟨_, rfl⟩ | ⟨_, _, rfl⟩ <;> rfl
  case format =>
    obtain ⟨_, _, rfl⟩ := h
    rfl
  all_goals cases h

end Parameters

/-! ### One parameter at a time -/

private theorem Output.exists_ofMediaType?_iff {text : String} :
    (∃ output, ofMediaType? text = some output)
      ↔ ∃ name ∈ ["text/mapml", "text/html"], (mediaName text).map Char.toLower = name.toList := by
  have hname {s : String} (hletters : ∀ d ∈ s.toList, d.toNat < 128 ∧ d ≠ 'k') :
      String.ofList (Text.lowerChars (mediaName text)) = s
        ↔ (mediaName text).map Char.toLower = s.toList := by
    rw [← String.toList_inj, String.toList_ofList, Text.lowerChars_eq_iff hletters]
  simp only [List.mem_cons, List.not_mem_nil, or_false, exists_eq_or_imp, exists_eq_left]
  rw [← hname (s := "text/mapml") (by simp),
    ← hname (s := "text/html") (by simp), mediaName, ← Text.getD_splitFirst, ofMediaType?]
  cases Text.splitFirst ';' text.toList <;>
  · dsimp only [Option.map_some, Option.map_none, Option.getD_some, Option.getD_none]
    split
    case h_1 h => simp [h]
    case h_2 h => simp [h]
    case h_3 h h' => simpa using ⟨h, h'⟩

namespace Parameters

variable {p : Parameters} {e : ServiceError}

private theorem checkService_eq_ok_iff : p.checkService = .ok () ↔ p.Meets .service := by
  unfold checkService Meets
  cases p.service with
  | none => simp
  | some text => simp

private theorem complains_of_checkService (h : p.checkService = .error e) :
    p.Complains .service e := by
  unfold checkService at h
  split at h
  · split at h <;> cases h
    rfl
  · cases h

private theorem checkRequest_eq_ok_iff : p.checkRequest = .ok () ↔ p.Meets .request := by
  unfold checkRequest Meets
  cases p.request with
  | none => simp
  | some text => simp

private theorem complains_of_checkRequest (h : p.checkRequest = .error e) :
    p.Complains .request e := by
  unfold checkRequest at h
  split at h
  case h_1 text htext =>
    split at h <;> cases h
    exact ⟨text, htext, rfl⟩
  case h_2 => cases h

private theorem exists_readLayers_iff :
    (∃ layers, p.readLayers = .ok layers) ↔ p.Meets .layers := by
  have hsplit (list : String) : splitLayers list ≠ []
      ↔ ∃ token ∈ Text.fields ',' list, Text.allBlank token = false := by
    rw [splitLayers, Text.tokens, Ne, List.filter_eq_nil_iff]
    simp [Text.trim_eq_empty_iff]
  simp only [readLayers_eq_ok_iff, Meets, ← hsplit, Option.mem_def]
  constructor
  · rintro ⟨_, list, hlist, rfl, hne⟩
    exact ⟨list, hlist, hne⟩
  · rintro ⟨list, hlist, hne⟩
    exact ⟨_, list, hlist, rfl, hne⟩

private theorem complains_of_readLayers (h : p.readLayers = .error e) : p.Complains .layers e := by
  unfold readLayers at h
  split at h
  · cases h
    rfl
  · split at h <;> cases h
    rfl

private theorem exists_readCrs_iff :
    (∃ resolved, p.readCrs (p.version.getD "1.3.0") = .ok resolved) ↔ p.Meets .crs := by
  simp only [readCrs_eq_ok_iff, Meets, ← @exists_resolveCrs_iff _ (p.version.getD "1.3.0")]
  constructor
  · rintro ⟨resolved, code, hcode, hresolve⟩
    exact ⟨code, hcode, resolved, hresolve⟩
  · rintro ⟨code, hcode, resolved, hresolve⟩
    exact ⟨resolved, code, hcode, hresolve⟩

private theorem crsIn_eq_none_iff {version : String} :
    p.crsIn version = none ↔ p.crs = none ∧ p.srs = none := by
  unfold crsIn
  split
  · rw [Option.or_eq_none_iff, and_comm]
  · rw [Option.or_eq_none_iff]

private theorem complains_of_readCrs (h : p.readCrs (p.version.getD "1.3.0") = .error e) :
    p.Complains .crs e := by
  unfold readCrs at h
  split at h
  case h_1 hnone =>
    cases h
    obtain ⟨hcrs, hsrs⟩ := crsIn_eq_none_iff.mp hnone
    exact .inl ⟨hcrs, hsrs, rfl⟩
  case h_2 code hcode => exact .inr ⟨code, hcode, eq_of_resolveCrs_error h⟩

private theorem exists_readBox_iff {order : AxisOrder} :
    (∃ bbox, p.readBox order = .ok bbox) ↔ p.Meets .bbox := by
  simp only [readBox_eq_ok_iff, Meets, ← @Box.exists_ofParam_iff _ order]
  cases p.bbox with
  | none => simp
  | some text => simp

private theorem complains_of_readBox {order : AxisOrder} (h : p.readBox order = .error e) :
    p.Complains .bbox e := by
  unfold readBox at h
  split at h
  case h_1 => cases h
  case h_2 text htext =>
    split at h
    case h_1 => cases h
    case h_2 fault hfault =>
      cases h
      exact ⟨text, htext, order, fault, hfault, rfl⟩

private theorem exists_readSize_iff {name : String} {value : Option String} :
    (∃ n, readSize name value = .ok n) ↔ ∃ text ∈ value, IsSize text := by
  simp only [readSize_eq_ok_iff, Decimal.readNat_eq_some_iff, Option.mem_def]
  constructor
  · rintro ⟨n, text, htext, ⟨digits, hdigits, hne, hall, rfl⟩, hbounds⟩
    exact ⟨text, htext, digits, hdigits, hne, hall, hbounds⟩
  · rintro ⟨text, htext, digits, hdigits, hne, hall, hbounds⟩
    exact ⟨_, text, htext, ⟨digits, hdigits, hne, hall, rfl⟩, hbounds⟩

private theorem complainsOfSize_of_readSize {name : String} {value : Option String}
    (h : readSize name value = .error e) : ComplainsOfSize name value e := by
  unfold readSize at h
  cases value with
  | none =>
    cases h
    exact .inl ⟨rfl, rfl⟩
  | some text =>
    refine .inr ⟨text, rfl, ?_⟩
    dsimp only at h
    split at h
    · split at h <;> cases h
      rfl
    · cases h
      rfl

private theorem exists_readOutput_iff :
    (∃ output, p.readOutput = .ok output) ↔ p.Meets .format := by
  simp only [readOutput_eq_ok_iff, Meets, ← Output.exists_ofMediaType?_iff]
  cases p.format with
  | none => simp
  | some text => simp

private theorem complains_of_readOutput (h : p.readOutput = .error e) : p.Complains .format e := by
  unfold readOutput at h
  split at h
  · cases h
  case h_2 text htext =>
    split at h <;> cases h
    exact ⟨text, htext, rfl⟩

/-! ### All of them in order -/

/-- The axis order that a box is read in, if there is a code to tell it. -/
def boxOrder (p : Parameters) : AxisOrder :=
  match p.readCrs (p.version.getD "1.3.0") with
  | .ok (_, order) => order
  | .error _ => .xy

def check (p : Parameters) : Parameter → Except ServiceError Unit
  | .service => p.checkService
  | .request => p.checkRequest
  | .layers => p.readLayers.map fun _ => ()
  | .crs => (p.readCrs (p.version.getD "1.3.0")).map fun _ => ()
  | .bbox => (p.readBox p.boxOrder).map fun _ => ()
  | .width => (readSize "WIDTH" p.width).map fun _ => ()
  | .height => (readSize "HEIGHT" p.height).map fun _ => ()
  | .format => p.readOutput.map fun _ => ()
  | .version | .styles | .srs | .formatOptions | .language | .transparent => .ok ()

/-- Making a request is checking one parameter after the other. -/
theorem toRequest_checks (p : Parameters) :
    p.toRequest.map (fun _ => ()) = (Parameter.checked.mapM p.check).map fun _ => () := by
  unfold toRequest
  simp only [Parameter.checked, List.mapM_cons, List.mapM_nil, check, boxOrder]
  cases p.checkService with
  | error e => rfl
  | ok _ =>
  cases p.checkRequest with
  | error e => rfl
  | ok _ =>
  cases p.readLayers with
  | error e => rfl
  | ok layers =>
  cases p.readCrs (p.version.getD "1.3.0") with
  | error e => rfl
  | ok resolved =>
  dsimp only [bind, Except.bind]
  cases p.readBox resolved.2 with
  | error e => rfl
  | ok bbox =>
  cases readSize "WIDTH" p.width with
  | error e => rfl
  | ok width =>
  cases readSize "HEIGHT" p.height with
  | error e => rfl
  | ok height =>
  cases p.readOutput with
  | error e => rfl
  | ok output => rfl

theorem check_eq_ok_iff {f : Parameter} : p.check f = .ok () ↔ p.Meets f := by
  cases f with
  | service => exact checkService_eq_ok_iff
  | request => exact checkRequest_eq_ok_iff
  | layers => exact map_unit_eq_ok_iff.trans exists_readLayers_iff
  | crs => exact map_unit_eq_ok_iff.trans exists_readCrs_iff
  | bbox => exact map_unit_eq_ok_iff.trans exists_readBox_iff
  | width | height => exact map_unit_eq_ok_iff.trans exists_readSize_iff
  | format => exact map_unit_eq_ok_iff.trans exists_readOutput_iff
  | version | styles | srs | formatOptions | language | transparent => exact iff_of_true rfl trivial

theorem complains_of_check {f : Parameter} (h : p.check f = .error e) : p.Complains f e := by
  cases f with
  | service => exact complains_of_checkService h
  | request => exact complains_of_checkRequest h
  | layers => exact complains_of_readLayers (map_eq_error_iff.mp h)
  | crs => exact complains_of_readCrs (map_eq_error_iff.mp h)
  | bbox => exact complains_of_readBox (map_eq_error_iff.mp h)
  | width | height => exact complainsOfSize_of_readSize (map_eq_error_iff.mp h)
  | format => exact complains_of_readOutput (map_eq_error_iff.mp h)
  | version | styles | srs | formatOptions | language | transparent => cases h

private theorem exists_toRequest_iff : (∃ r, p.toRequest = .ok r) ↔ ∀ f, p.Meets f := by
  rw [← map_unit_eq_ok_iff, toRequest_checks, map_unit_eq_ok_iff, exists_mapM_iff]
  constructor
  · intro h f
    by_cases hf : f ∈ Parameter.checked
    · obtain ⟨_, hcheck⟩ := h f hf
      exact check_eq_ok_iff.mp hcheck
    · cases f
      case version | styles | srs | formatOptions | language | transparent => trivial
      all_goals exact absurd (by decide) hf
  · intro h f _
    exact ⟨(), check_eq_ok_iff.mpr (h f)⟩

theorem toRequest_eq_error_iff : p.toRequest = .error e
    ↔ ∃ (i : Nat) (f : Parameter), Parameter.checked[i]? = some f ∧ p.check f = .error e
      ∧ ∀ j < i, ∀ g, Parameter.checked[j]? = some g → p.Meets g := by
  have hunit (g : Parameter) : (∃ u, p.check g = .ok u) ↔ p.Meets g := by
    rw [← check_eq_ok_iff]
    exact ⟨fun ⟨_, h⟩ => h, fun h => ⟨(), h⟩⟩
  rw [← map_eq_error_iff (f := fun _ => ()), toRequest_checks, map_eq_error_iff, mapM_eq_error_iff]
  simp only [hunit]

/-- **Which parameters make a request.** Parameters make a request exactly when each of them is as
it must be, and are otherwise refused for the first one that is not, with an error that names it. -/
theorem toRequest_decides (p : Parameters) :
    ((∃ r, p.toRequest = .ok r) ↔ ∀ f, p.Meets f)
    ∧ (∀ e, p.toRequest = .error e → ∃ (i : Nat) (f : Parameter),
      Parameter.checked[i]? = some f ∧ ¬ p.Meets f
      ∧ (∀ j < i, ∀ g, Parameter.checked[j]? = some g → p.Meets g)
      ∧ p.Complains f e ∧ e.locator? = some (Text.lower f.name))
    ∧ ∀ r, p.toRequest = .ok r →
      r.IsChecked ∧ ∀ box ∈ r.bbox, box.isFinite = true ∧ box.IsOrdered := by
  refine ⟨exists_toRequest_iff, fun e h => ?_, fun r h => ?_⟩
  · obtain ⟨i, f, hf, hcheck, hbefore⟩ := toRequest_eq_error_iff.mp h
    have hcomplains := complains_of_check hcheck
    refine ⟨i, f, hf, ?_, hbefore, hcomplains, hcomplains.locator⟩
    rw [← check_eq_ok_iff, hcheck]
    exact fun hok => by cases hok
  · exact ⟨isChecked_of_toRequest h, fun box hbox => isOrdered_of_toRequest h hbox⟩

theorem toRequest_decides_lakes : ∃ (p q : Parameters) (r : Request),
    p.toRequest = .ok r ∧ (∀ f, p.Meets f) ∧ r.IsChecked
    ∧ (∃ box ∈ r.bbox, box.isFinite = true ∧ box.IsOrdered)
    ∧ q = { p with crs := none, height := some "0" }
    ∧ q.toRequest = .error (.missingParameter "CRS")
    ∧ ∃ (i : Nat) (f : Parameter), Parameter.checked[i]? = some f ∧ ¬ q.Meets f
      ∧ (∀ j < i, ∀ g, Parameter.checked[j]? = some g → q.Meets g)
      ∧ q.Complains f (.missingParameter "CRS") ∧ some "crs" = some (Text.lower f.name) := by
  let p : Parameters :=
    { layers := some " ,Lakes", crs := some "epsg:4326", bbox := some "-45, -90, 45, 90",
      width := some "768", height := some "+384 ", format := some "Text/HTML; subtype=mapml" }
  let q : Parameters := { p with crs := none, height := some "0" }
  have hread : (p.toRequest.map fun r => r.bbox) = .ok (some ⟨-90, -45, 90, 45⟩) := by
    decide +kernel
  obtain ⟨r, hr, hbox⟩ := map_eq_ok_iff.mp hread
  have hrefused : q.toRequest = .error (.missingParameter "CRS") := by decide +kernel
  have hlocator : (ServiceError.missingParameter "CRS").locator? = some "crs" := by decide +kernel
  obtain ⟨hchecked, hordered⟩ := (toRequest_decides p).2.2 r hr
  obtain ⟨i, f, hf, hfails, hbefore, hcomplains, hname⟩ := (toRequest_decides q).2.1 _ hrefused
  rw [hlocator] at hname
  exact ⟨p, q, r, hr, (toRequest_decides p).1.mp ⟨r, hr⟩, hchecked, ⟨_, hbox, hordered _ hbox⟩, rfl,
    hrefused, i, f, hf, hfails, hbefore, hcomplains, hname⟩

end Parameters

end MapMarkup
