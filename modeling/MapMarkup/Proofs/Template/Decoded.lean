import MapMarkup.Proofs.Query
import MapMarkup.Proofs.Template.Closed
import MapMarkup.Proofs.Text.Transparent

/-!
# Templates read as URLs

Nothing in a template is encoded, and still it is a URL that a service reads. What it reads is what
the parameters say one by one (`Template.pairs_text`), and these are the parameters of the template
exactly when every value passes through a form as it is (`Template.pairs_text_eq_iff`).

Most values of a source's templates never change and pass. The others are texts of the source, each
under a name of its own (`ImageSource.Fills`). A text that does not pass brings other parameters or
is read as another text.
-/

namespace MapMarkup

namespace Template

theorem notMem_of_isPlain {name : String} (h : Query.IsPlain name) :
    '&' ∉ name.toList ∧ '=' ∉ name.toList := by
  rw [← h]
  exact ⟨(Text.notMem_percentChars _).1, (Text.notMem_percentChars _).2.1⟩

/-- A parameter says itself and nothing else exactly when its value is transparent. -/
theorem formPairs_parameter_iff {p : String × String} (h : Query.IsPlain p.1) :
    Text.formPairs (parameter p) = [p] ↔ Text.IsTransparent p.2.toList := by
  have hdecode : Text.formDecode p.1.toList = p.1.toList := by
    conv_lhs => rw [← h]
    rw [Text.formDecode_percentChars]
  have hiff :=
    @Text.formPairs_eq_singleton_iff p.1.toList p.2.toList (notMem_of_isPlain h) hdecode
  rwa [String.ofList_toList, String.ofList_toList] at hiff

variable {t : Template}

theorem pairs_text (hne : t.endpoint ≠ "") (hendpoint : '?' ∉ t.endpoint.toList) :
    Query.pairs t.text = t.params.flatMap fun p => Text.formPairs (parameter p) := by
  have hchars : t.endpoint.toList ≠ [] := by simpa using hne
  rw [Query.pairs, toList_text, Query.ofUrl_endpoint hchars hendpoint,
    Text.formPairs_joinFields, List.flatMap_map]

theorem pairs_text_eq_iff (hne : t.endpoint ≠ "") (hendpoint : '?' ∉ t.endpoint.toList)
    (hplain : ∀ p ∈ t.params, Query.IsPlain p.1) :
    Query.pairs t.text = t.params ↔ ∀ p ∈ t.params, Text.IsTransparent p.2.toList := by
  rw [pairs_text hne hendpoint, Text.flatMap_eq_self_iff]
  · exact forall₂_congr fun p hp => formPairs_parameter_iff (hplain p hp)
  · exact fun p hp => Text.formPairs_ne_nil (notMem_of_isPlain (hplain p hp)) _

end Template

namespace ImageSource

/-- The text of the source that stands under a parameter name. -/
def text? (s : ImageSource) (name : String) : Option String :=
  match name with
  | "layers" => some s.layers
  | "query_layers" => s.queryLayers
  | "styles" | "style" => some s.styles
  | "layer" => some s.cacheLayer
  | "format" => some s.imageFormat
  | "language" => s.language
  | _ => none

def textNames : List String :=
  ["layers", "query_layers", "styles", "style", "layer", "format", "language"]

private theorem text?_eq_none {name : String} (h : name ∉ textNames) (s : ImageSource) :
    s.text? name = none := by
  unfold text?
  split <;> first | rfl | exact absurd (by decide) h

/-- The parameter holds the text of the source for its name, or one that never changes and passes
through a form. -/
def IsFilled (s : ImageSource) (p : String × String) : Prop :=
  s.text? p.1 = some p.2 ∨ p.1 ∉ textNames ∧ Text.IsTransparent p.2.toList

structure Fills (s : ImageSource) (t : Template) : Prop where
  names_isPlain : ∀ name ∈ t.params.map Prod.fst, Query.IsPlain name
  names_nodup : (t.params.map Prod.fst).Nodup
  isFilled : ∀ p ∈ t.params, s.IsFilled p

def templates (s : ImageSource) : List Template :=
  s.imageTemplate :: s.queryLayers.toList.map s.queryTemplate

theorem trefs_eq {e : Extent} {s : ImageSource} (h : e.nodes = s.nodes) :
    e.links.map Link.tref = s.templates.map fun t => some t.text := by
  rw [links_eq h, templates, List.map_cons, List.map_cons, List.map_map, List.map_map]
  rfl

/-! ### The parameters of the templates -/

section

variable {s : ImageSource}

def imageParamNames (fetching : Fetching) (worded : Bool) : List String :=
  match fetching with
  | .image | .wmsTiles =>
    ["version", "service", "request", "crs", "layers", "styles", "bbox", "format", "transparent",
      "width", "height"] ++ if worded then ["language"] else []
  | .wmts =>
    ["layer", "style", "tilematrixset", "service", "request", "version", "tilematrix", "TileCol",
      "TileRow", "format"]

def queryParamNames (fetching : Fetching) (worded : Bool) : List String :=
  match fetching with
  | .image | .wmsTiles =>
    ["version", "service", "request", "crs", "layers", "query_layers", "styles", "bbox",
      "transparent", "width", "height", "x", "y", "info_format", "feature_count"]
      ++ if worded then ["language"] else []
  | .wmts =>
    ["layer", "style", "tilematrixset", "service", "request", "version", "tilematrix", "TileCol",
      "TileRow", "i", "j", "infoformat", "feature_count"]

theorem isFilled_code (t : Tcrs) :
    s.IsFilled ("crs", t.code) ∧ s.IsFilled ("tilematrixset", t.name) := by
  cases t <;> exact ⟨.inr (by decide +kernel), .inr (by decide +kernel)⟩

theorem isFilled_boxParam (fetching : Fetching) : s.IsFilled ("bbox", boxParam fetching) := by
  cases fetching <;> exact .inr (by decide +kernel)

theorem isFilled_sizeParams (fetching : Fetching) : ∀ p ∈ sizeParams fetching, s.IsFilled p := by
  have hall : ∀ fetching, ∀ p ∈ sizeParams fetching,
      p.1 ∉ textNames ∧ Text.IsTransparent p.2.toList := by
    decide +kernel
  exact fun p hp => .inr (hall fetching p hp)

theorem isFilled_languageParam : ∀ p ∈ s.languageParam, s.IsFilled p := by
  intro p hp
  obtain ⟨l, hl, rfl⟩ := List.mem_map.mp hp
  exact .inl (Option.mem_toList.mp hl)

theorem isFilled_mapTemplate : ∀ p ∈ s.mapTemplate.params, s.IsFilled p := by
  simp only [mapTemplate, List.forall_mem_append, List.forall_mem_cons]
  exact ⟨⟨⟨.inr (by decide +kernel), .inr (by decide +kernel), .inr (by decide +kernel),
    (isFilled_code _).1, .inl rfl, .inl rfl, isFilled_boxParam _, .inl rfl,
    .inr (by decide +kernel), by simp⟩, isFilled_sizeParams _⟩, isFilled_languageParam⟩

theorem isFilled_cacheParams {request : String} (h : Text.IsTransparent request.toList) :
    ∀ p ∈ s.cacheParams request, s.IsFilled p := by
  have hrequest : s.IsFilled ("request", request) :=
    .inr ⟨(by decide : "request" ∉ textNames), h⟩
  simp only [cacheParams, List.forall_mem_cons]
  exact ⟨.inl rfl, .inl rfl, (isFilled_code _).2, .inr (by decide +kernel),
    hrequest, .inr (by decide +kernel), .inr (by decide +kernel),
    .inr (by decide +kernel), .inr (by decide +kernel), by simp⟩

private theorem isFilled_imageTemplate : ∀ p ∈ s.imageTemplate.params, s.IsFilled p := by
  unfold imageTemplate
  cases s.fetching with
  | image => exact isFilled_mapTemplate
  | wmsTiles => exact isFilled_mapTemplate
  | wmts =>
      simp only [cacheTemplate, List.forall_mem_append, List.forall_mem_cons]
      exact ⟨isFilled_cacheParams (by decide +kernel), .inl rfl, by simp⟩

private theorem isFilled_queryTemplate {q : String} (hq : s.queryLayers = some q) :
    ∀ p ∈ (s.queryTemplate q).params, s.IsFilled p := by
  have hmap : ∀ fetching, ∀ p ∈
      [("version", "1.3.0"), ("service", "WMS"), ("request", "GetFeatureInfo"),
        ("crs", s.tcrs.code), ("layers", s.layers), ("query_layers", q), ("styles", s.styles),
        ("bbox", boxParam fetching), ("transparent", "true")] ++ sizeParams fetching
        ++ [("x", placeholder "i"), ("y", placeholder "j"), ("info_format", "text/mapml"),
          ("feature_count", toString featureCount)] ++ s.languageParam, s.IsFilled p := by
    intro fetching
    simp only [List.forall_mem_append, List.forall_mem_cons]
    exact ⟨⟨⟨⟨.inr (by decide +kernel), .inr (by decide +kernel), .inr (by decide +kernel),
      (isFilled_code _).1, .inl rfl, .inl hq, .inl rfl, isFilled_boxParam _,
      .inr (by decide +kernel), by simp⟩, isFilled_sizeParams _⟩, .inr (by decide +kernel),
      .inr (by decide +kernel), .inr (by decide +kernel), .inr (by decide +kernel), by simp⟩,
      isFilled_languageParam⟩
  unfold queryTemplate
  cases s.fetching with
  | image => exact hmap .image
  | wmsTiles => exact hmap .wmsTiles
  | wmts =>
      simp only [List.forall_mem_append, List.forall_mem_cons]
      exact ⟨isFilled_cacheParams (by decide +kernel), .inr (by decide +kernel),
        .inr (by decide +kernel), .inr (by decide +kernel), .inr (by decide +kernel), by simp⟩

private theorem names_imageTemplate (s : ImageSource) : s.imageTemplate.params.map Prod.fst
    = imageParamNames s.fetching s.language.isSome := by
  obtain ⟨base, tcrs, layers, queryLayers, styles, cacheLayer, fetching, zoom, format, language,
    sharding⟩ := s
  cases fetching <;> cases language <;> rfl

private theorem names_queryTemplate (s : ImageSource) (q : String) :
    (s.queryTemplate q).params.map Prod.fst
      = queryParamNames s.fetching s.language.isSome := by
  obtain ⟨base, tcrs, layers, queryLayers, styles, cacheLayer, fetching, zoom, format, language,
    sharding⟩ := s
  cases fetching <;> cases language <;> rfl

theorem paramNames_isPlain : ∀ (fetching : Fetching) (worded : Bool),
    ∀ names ∈ [imageParamNames fetching worded, queryParamNames fetching worded],
      (∀ name ∈ names, Query.IsPlain name) ∧ names.Nodup := by
  decide +kernel

private theorem fills_templates {t : Template} (h : t ∈ s.templates) : s.Fills t := by
  rcases List.mem_cons.mp h with rfl | h
  · obtain ⟨hplain, hnodup⟩ := paramNames_isPlain s.fetching s.language.isSome _
      List.mem_cons_self
    rw [← s.names_imageTemplate] at hplain hnodup
    exact ⟨hplain, hnodup, isFilled_imageTemplate⟩
  · obtain ⟨q, hq, rfl⟩ := List.mem_map.mp h
    obtain ⟨hplain, hnodup⟩ := paramNames_isPlain s.fetching s.language.isSome _
      (List.mem_cons_of_mem _ List.mem_cons_self)
    rw [← s.names_queryTemplate q] at hplain hnodup
    exact ⟨hplain, hnodup, isFilled_queryTemplate (Option.mem_toList.mp hq)⟩

/-! ### What a service reads -/

theorem notMem_templateBase (hbase : '?' ∉ s.base.toList)
    (hpattern : ∀ sharding ∈ s.sharding, '?' ∉ sharding.pattern.toList) :
    '?' ∉ s.templateBase.toList := by
  unfold templateBase
  cases hsharding : s.sharding with
  | none => exact hbase
  | some sharding =>
      obtain ⟨front, back, hurl, hfront, hback⟩ := baseUrl_eq_append s.base sharding.pattern
      have hall : '?' ∉ s.base.toList ++ "http://".toList := by
        rw [List.mem_append, not_or]
        exact ⟨hbase, by decide⟩
      dsimp only
      rw [hurl, List.mem_append, List.mem_append, not_or, not_or]
      exact ⟨fun h => hall (hfront h), hpattern sharding hsharding, fun h => hall (hback h)⟩

private theorem endpoint_of_mem_templates {t : Template} (ht : t ∈ s.templates)
    (hbase : '?' ∉ s.templateBase.toList) : t.endpoint ≠ "" ∧ '?' ∉ t.endpoint.toList := by
  have hpaths : ∀ path ∈ ["wms", "gwc/service/wmts"], path ≠ "" ∧ '?' ∉ path.toList := by decide
  have hendpoint : ∃ path ∈ ["wms", "gwc/service/wmts"], t.endpoint = s.templateBase ++ path := by
    rcases List.mem_cons.mp ht with rfl | ht
    · unfold imageTemplate
      cases s.fetching <;> exact ⟨_, by decide, rfl⟩
    · obtain ⟨q, _, rfl⟩ := List.mem_map.mp ht
      unfold queryTemplate
      cases s.fetching <;> exact ⟨_, by decide, rfl⟩
  obtain ⟨path, hpath, hendpoint⟩ := hendpoint
  obtain ⟨hne, hmark⟩ := hpaths path hpath
  rw [hendpoint, String.toList_append, List.mem_append, not_or]
  exact ⟨fun h => hne (String.append_eq_empty_iff.mp h).2, hbase, hmark⟩

/-- How the URL of a template that a source fills in is read. -/
structure IsRead (s : ImageSource) (t : Template) : Prop where
  fills : s.Fills t
  pieces : Query.pairs t.text = t.params.flatMap fun p => Text.formPairs (Template.parameter p)
  whole : Query.pairs t.text = t.params
    ↔ ∀ p ∈ t.params, ∀ text ∈ s.text? p.1, Text.IsTransparent text.toList

theorem isRead_templates {t : Template} (ht : t ∈ s.templates)
    (hbase : '?' ∉ s.templateBase.toList) : s.IsRead t := by
  have hfills := fills_templates ht
  obtain ⟨hne, hendpoint⟩ := endpoint_of_mem_templates ht hbase
  have hplain : ∀ p ∈ t.params, Query.IsPlain p.1 :=
    fun p hp => hfills.names_isPlain p.1 (List.mem_map_of_mem hp)
  refine ⟨hfills, Template.pairs_text hne hendpoint, ?_⟩
  rw [Template.pairs_text_eq_iff hne hendpoint hplain]
  refine forall₂_congr fun p hp => ?_
  rcases hfills.isFilled p hp with htext | ⟨hname, htransparent⟩
  · rw [htext]
    exact ⟨fun h text ht => Option.some.inj ht ▸ h, fun h => h _ rfl⟩
  · rw [text?_eq_none hname]
    exact ⟨fun _ _ hnone => (nomatch hnone), fun _ => htransparent⟩

end

end ImageSource

end MapMarkup
