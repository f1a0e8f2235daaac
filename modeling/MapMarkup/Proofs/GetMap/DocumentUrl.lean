import MapMarkup.Publisher
import MapMarkup.Proofs.Box.Param
import MapMarkup.Proofs.GetMap.Canonical
import MapMarkup.Proofs.GetMap.Checked
import MapMarkup.Proofs.Query
import MapMarkup.Proofs.TiledCrs

/-!
# Document URLs read back

The URL of a document, read as a request, asks for the same map: the layers, styles, sizes and
language of the request that the document answers, in the tiled system and for the box that the URL
was made for. Names of parameters are found in any case, so that the URL in a document and the one
in its preview page, which writes them in upper case, are the same parameters
(`ofQuery_documentUrl`, `ofQuery_previewSource`). A list of default styles is written as nothing and
filled up again (`distributeStyles_stylesParam`), and the rest is read back part by part.
-/

namespace MapMarkup

/-! ### Numbers -/

private theorem readNat_toString (n : Nat) :
    Decimal.readNat (Text.trimChars (toString n).toList) = some n := by
  have hchars : (toString n).toList = Decimal.digitChars n := Nat.toList_repr
  have hdigits : ∀ c ∈ Decimal.digitChars n, c.isDigit = true :=
    fun _ => Decimal.isDigit_of_mem_digitChars
  have htrim : Text.trimChars (Decimal.digitChars n) = Decimal.digitChars n :=
    (Text.trimmed_of_forall fun c hc => isBlank_of_isDigit (hdigits c hc)).trimChars_eq
  rw [hchars, htrim, Decimal.readNat_eq_some_iff]
  exact ⟨_, .inl rfl, Decimal.digitChars_ne_nil n, hdigits, Decimal.digitsValue_digitChars n⟩

theorem readSize_toString (name : String) {n : Nat}
    (h : 0 < n ∧ n ≤ Parameters.greatestSize) :
    Parameters.readSize name (some (toString n)) = .ok n :=
  Parameters.readSize_eq_ok_iff.mpr ⟨_, rfl, readNat_toString n, h⟩

/-! ### Styles -/

theorem distributeStyles_stylesParam {styles : List String} (h : ∀ s ∈ styles, IsToken s) :
    distributeStyles (some (stylesParam styles)) styles.length = styles := by
  unfold distributeStyles stylesParam
  dsimp only
  refine Eq.trans ?_ (map_range_getD styles)
  by_cases hall : styles.all (· = "") = true
  · rw [if_pos hall, if_pos rfl]
    apply List.map_congr_left
    intro i hi
    have hlength : i < styles.length := List.mem_range.mp hi
    have hempty := List.all_eq_true.mp hall styles[i] (List.getElem_mem hlength)
    rw [List.getD_eq_getElem?_getD, List.getD_eq_getElem?_getD, List.getElem?_eq_getElem hlength,
      Option.getD_some, of_decide_eq_true hempty]
    rfl
  · have hne : styles ≠ [] := by
      rintro rfl
      exact hall rfl
    have hjoin : Text.join ',' styles ≠ "" := by
      intro hempty
      rw [join_eq_empty hne h hempty] at hall
      exact hall (by decide)
    rw [if_neg hall, if_neg hjoin, fields_join hne h]

/-! ### Bases -/

theorem Service.notMem_base {s : Service} {workspace : Option String}
    (hurl : '?' ∉ s.baseUrl.toList) (hworkspace : ∀ w ∈ workspace, '?' ∉ w.toList) :
    '?' ∉ (s.base workspace).toList := by
  have hroot : '?' ∉ dropTrailingSlashes s.baseUrl.toList ++ ['/'] := by
    rw [List.mem_append, not_or, dropTrailingSlashes, List.mem_reverse]
    refine ⟨fun h => hurl ?_, by decide⟩
    exact List.mem_reverse.mp ((List.dropWhile_suffix _).subset h)
  unfold base
  cases workspace with
  | none =>
      dsimp only
      rwa [String.toList_ofList]
  | some w =>
      dsimp only
      split
      · rwa [String.toList_ofList]
      · rw [String.toList_append, String.toList_append, List.mem_append, List.mem_append, not_or,
          not_or, String.toList_ofList]
        exact ⟨⟨hroot, hworkspace w rfl⟩, by decide⟩

/-! ### Parameters -/

/-- The parameters of a URL are looked up by the upper case of their names. -/
theorem ofQuery_url {endpoint : String} {params : List (String × String)}
    {names keys : List String} (hendpoint : '?' ∉ endpoint.toList)
    (hparams : params.map Prod.fst = names) (hplain : ∀ name ∈ names, Query.IsPlain name)
    (hkeys : names.map Text.upper = keys) :
    Parameters.ofQuery (Query.url endpoint params)
      = Parameters.ofValues (lastOption? (keys.zip (params.map Prod.snd))) := by
  subst hparams hkeys
  have hkeyed : params.map (fun p => (Text.upper p.1, p.2))
      = ((params.map Prod.fst).map Text.upper).zip (params.map Prod.snd) := by
    rw [List.map_map, List.zip_map']
    rfl
  rw [Parameters.ofQuery, Query.pairs_url hendpoint fun p hp => hplain p.1 (List.mem_map_of_mem hp),
    ← hkeyed]
  exact congrArg Parameters.ofValues (funext (lastValue?_eq params))

/-- The parameters of the URL of a document. -/
def documentParameters (r : Request) (t : Tcrs) (b : Box) : Parameters :=
  { service := some "WMS"
    request := some "GetMap"
    version := some "1.3.0"
    layers := some (Text.join ',' r.layers)
    styles := some (stylesParam r.styles)
    crs := some t.code
    bbox := some (b.toParam .xy)
    width := some (toString r.width)
    height := some (toString r.height)
    format := some documentType
    language := r.language }

theorem notMem_endpoint {base : String} (hbase : '?' ∉ base.toList) :
    '?' ∉ (base ++ "wms").toList := by
  rw [String.toList_append, List.mem_append, not_or]
  exact ⟨hbase, by decide⟩

theorem ofQuery_documentUrl {base : String} (hbase : '?' ∉ base.toList) (r : Request) (t : Tcrs)
    (b : Box) : Parameters.ofQuery (documentUrl base r t b) = documentParameters r t b := by
  have hnames : ∀ worded : Bool,
      let names := ["service", "version", "request", "layers", "styles", "crs", "bbox", "format",
        "width", "height"] ++ if worded then ["language"] else []
      (∀ name ∈ names, Query.IsPlain name) ∧ names.map Text.upper
        = ["SERVICE", "VERSION", "REQUEST", "LAYERS", "STYLES", "CRS", "BBOX", "FORMAT", "WIDTH",
          "HEIGHT"] ++ if worded then ["LANGUAGE"] else [] := by
    decide +kernel
  unfold documentUrl documentParameters
  cases r.language with
  | none =>
      obtain ⟨hplain, hkeys⟩ := hnames false
      exact (ofQuery_url (notMem_endpoint hbase) (by rfl) hplain hkeys).trans rfl
  | some l =>
      obtain ⟨hplain, hkeys⟩ := hnames true
      exact (ofQuery_url (notMem_endpoint hbase) (by rfl) hplain hkeys).trans rfl

theorem ofQuery_previewSource {base : String} (hbase : '?' ∉ base.toList) (r : Request) (t : Tcrs)
    (b : Box) : Parameters.ofQuery (previewSource base r t b) = documentParameters r t b := by
  have hnames : ∀ worded : Bool,
      let names := ["LAYERS", "STYLES", "CRS", "BBOX", "WIDTH", "HEIGHT", "FORMAT", "SERVICE",
        "VERSION", "REQUEST"] ++ if worded then ["LANGUAGE"] else []
      (∀ name ∈ names, Query.IsPlain name) ∧ names.map Text.upper = names := by
    decide +kernel
  unfold previewSource documentParameters
  cases r.language with
  | none =>
      obtain ⟨hplain, hkeys⟩ := hnames false
      exact (ofQuery_url (notMem_endpoint hbase) (by rfl) hplain hkeys).trans rfl
  | some l =>
      obtain ⟨hplain, hkeys⟩ := hnames true
      exact (ofQuery_url (notMem_endpoint hbase) (by rfl) hplain hkeys).trans rfl

/-! ### Requests -/

theorem toRequest_documentParameters {r : Request} (hr : r.IsChecked) (t : Tcrs) {b : Box}
    (hfinite : b.isFinite = true) (hx : b.minX ≤ b.maxX) (hy : b.minY ≤ b.maxY) :
    (documentParameters r t b).toRequest = .ok { r with
      version := "1.3.0", tcrs := t, bbox := some b, output := .document, imageFormat := none,
      workspace := none } := by
  have hlayers : (documentParameters r t b).readLayers = .ok r.layers := by
    rw [Parameters.readLayers_eq_ok_iff]
    exact ⟨_, rfl, (splitLayers_join hr.layers_ne_nil hr.layers_isToken).symm, hr.layers_ne_nil⟩
  have hcrs : (documentParameters r t b).readCrs "1.3.0" = .ok (t, .xy) :=
    Parameters.readCrs_eq_ok_iff.mpr ⟨t.code, rfl, resolveCrs_code t "1.3.0"⟩
  have hbox : (documentParameters r t b).readBox .xy = .ok (some b) := by
    rw [Parameters.readBox_eq_ok_iff]
    exact .inr ⟨_, b, rfl, Box.ofParam_toParam hfinite hx hy .xy, rfl⟩
  have houtput : (documentParameters r t b).readOutput = .ok .document := by
    rw [Parameters.readOutput_eq_ok_iff]
    exact .inr ⟨documentType, rfl, by decide +kernel⟩
  have hlanguage : r.language = r.language.filter (fun l => !Text.allBlank l) := by
    cases hcases : r.language with
    | none => rfl
    | some l =>
      have hblank := hr.language_not_blank l hcases
      simp [Option.filter, hblank]
  have hstyles : r.styles = distributeStyles (some (stylesParam r.styles)) r.layers.length := by
    rw [← hr.styles_length, distributeStyles_stylesParam hr.styles_isToken]
  rw [Parameters.toRequest_eq_ok_iff]
  exact ⟨rfl, rfl, rfl, hlayers, ⟨.xy, hcrs, hbox⟩,
    readSize_toString _ hr.width_bounds, readSize_toString _ hr.height_bounds, houtput, hstyles,
    rfl, hlanguage, rfl⟩

/-- **The URL of a document asks for the map of the document.** Written for a request in any tiled
system and for any finite box that is not inverted, it reads as that request, in that system and for
that box. -/
theorem toRequest_documentUrl {query base : String} {r : Request} (t : Tcrs) {b : Box}
    (hr : (Parameters.read query >>= Parameters.toRequest) = .ok r) (hbase : '?' ∉ base.toList)
    (hfinite : b.isFinite = true) (hx : b.minX ≤ b.maxX) (hy : b.minY ≤ b.maxY) :
    (Parameters.read (documentUrl base r t b) >>= Parameters.toRequest) = .ok { r with
      version := "1.3.0", tcrs := t, bbox := some b, output := .document, imageFormat := none,
      workspace := none } := by
  rw [Parameters.read_toRequest] at hr ⊢
  rw [ofQuery_documentUrl hbase]
  exact toRequest_documentParameters (Parameters.isChecked_of_toRequest hr) t hfinite hx hy

theorem toRequest_documentUrl_lakes : ∃ r,
    (Parameters.read
      ("?Layers=Lakes,%20a:Roads%C3%A9%26,&styles=,b%2Blue&CRS=EPSG:4326" ++
        "&width=10&HEIGHT=%2B20&language=fr+CA&format=text/html") >>= Parameters.toRequest) = .ok r
    ∧ r.layers = ["Lakes", "a:Roadsé&"] ∧ r.styles = ["", "b+lue"] ∧ r.language = some "fr CA"
    ∧ (Parameters.read (documentUrl "http://h/a=b&c/" r .osmTile ⟨-1.5, 0, 2.25, 0⟩)
        >>= Parameters.toRequest)
      = .ok { r with
          version := "1.3.0", tcrs := .osmTile, bbox := some ⟨-1.5, 0, 2.25, 0⟩,
          output := .document, imageFormat := none, workspace := none } := by
  have hr : (Parameters.read
      ("?Layers=Lakes,%20a:Roads%C3%A9%26,&styles=,b%2Blue&CRS=EPSG:4326" ++
        "&width=10&HEIGHT=%2B20&language=fr+CA&format=text/html") >>= Parameters.toRequest) = .ok
      { version := "1.3.0", layers := ["Lakes", "a:Roadsé&"], styles := ["", "b+lue"],
        tcrs := .wgs84, bbox := none, width := 10, height := 20, output := .preview,
        imageFormat := none, language := some "fr CA", workspace := none } := by
    rw [Parameters.read_toRequest]
    decide +kernel
  exact ⟨_, hr, rfl, rfl, rfl, toRequest_documentUrl .osmTile hr (by decide) (by decide +kernel)
    (by decide +kernel) (by decide +kernel)⟩

end MapMarkup
