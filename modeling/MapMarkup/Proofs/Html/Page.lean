import MapMarkup.Proofs.Html.Tags
import MapMarkup.Proofs.Outcome
import MapMarkup.Proofs.Preview
import MapMarkup.Rendering

/-!
# The tags of preview pages

Every preview page has the same tags with the same attributes, and the texts of the preview stand
in the text of the title and in values (`pageTags`): no text opens or closes a tag or an attribute.
-/

namespace MapMarkup

/-! ### Tags of the skeleton -/

def pageTags (title script projection zoom lat lon source : String) : List (Html.Tag × String) :=
  [(⟨"!DOCTYPE", [("html", "")]⟩, "\n"), (⟨"html", []⟩, "\n"), (⟨"head", []⟩, "\n"),
    (⟨"title", []⟩, title), (⟨"/title", []⟩, "\n"), (⟨"meta", [("charset", "utf-8")]⟩, "\n"),
    (⟨"meta", [("name", "viewport"), ("content", "width=device-width,initial-scale=1")]⟩, "\n"),
    (⟨"script", [("type", "module"), ("src", script)]⟩, ""), (⟨"/script", []⟩, "\n"),
    (⟨"style", []⟩, "\nhtml, body \x7b height: 100%; margin: 0; \x7d\n"
      ++ "mapml-viewer \x7b width: 100%; height: 100%; \x7d\n"),
    (⟨"/style", []⟩, "\n"), (⟨"noscript", []⟩, "\n"),
    (⟨"style", []⟩, "\nmapml-viewer:not(:defined) > :not(layer-) \x7b display: initial; \x7d\n"),
    (⟨"/style", []⟩, "\n"), (⟨"/noscript", []⟩, "\n"), (⟨"/head", []⟩, "\n"), (⟨"body", []⟩, "\n"),
    (⟨"mapml-viewer", [("projection", projection), ("zoom", zoom), ("lat", lat), ("lon", lon),
      ("controls", ""), ("controlslist", "geolocation")]⟩, "\n"),
    (⟨"layer-", [("label", title), ("src", source), ("checked", "")]⟩, ""),
    (⟨"/layer-", []⟩, "\n"), (⟨"/mapml-viewer", []⟩, "\n"), (⟨"/body", []⟩, "\n"),
    (⟨"/html", []⟩, "\n")]

section

variable {title script projection zoom lat lon source : String}

private theorem readField_title : Html.readField ("title>" ++ Text.escape title).toList
    = some (⟨"title", []⟩, title) := by
  have hopen : Html.run "title>".toList ⟨.name [], []⟩
      = some ⟨.text (Html.Tag.written ⟨"title", []⟩) [], []⟩ := rfl
  refine Html.readField_of_run ?_ (by decide)
  rw [String.toList_append, Html.run_append hopen, Html.run_escape_text]

private theorem readField_script :
    Html.readField ("script type=\"module\" src=\"" ++ Text.escape script ++ "\">").toList
      = some (⟨"script", [("type", "module"), ("src", script)]⟩, "") := by
  let tag : List (String × String) → Html.RawTag := fun attributes =>
    Html.Tag.written ⟨"script", attributes⟩
  have hopen : Html.run "script type=\"module\" src=\"".toList ⟨.name [], []⟩
      = some ⟨.value (tag [("type", "module")]) "src".toList [], []⟩ := rfl
  have hclose : Html.run "\">".toList
      ⟨.value (tag [("type", "module")]) "src".toList (Text.escapeChars script.toList), []⟩
      = some ⟨.text (tag [("type", "module"), ("src", script)]) [], []⟩ := rfl
  have hshape : Html.isPlainShape ("script", ["type", "src"]) = true := by decide
  refine Html.readField_of_run ?_ hshape
  rw [String.toList_append, String.toList_append, List.append_assoc, Html.run_append hopen,
    Html.run_append (Html.run_escape_value script), hclose]
  rfl

private theorem readField_viewer :
    Html.readField ("mapml-viewer projection=\"" ++ Text.escape projection
        ++ "\" zoom=\"" ++ Text.escape zoom ++ "\" lat=\"" ++ Text.escape lat
        ++ "\" lon=\"" ++ Text.escape lon ++ "\" controls controlslist=\"geolocation\">\n").toList
      = some (⟨"mapml-viewer", [("projection", projection), ("zoom", zoom), ("lat", lat),
        ("lon", lon), ("controls", ""), ("controlslist", "geolocation")]⟩, "\n") := by
  let tag : List (String × String) → Html.RawTag := fun attributes =>
    Html.Tag.written ⟨"mapml-viewer", attributes⟩
  have hprojection : Html.run "mapml-viewer projection=\"".toList ⟨.name [], []⟩
      = some ⟨.value (tag []) "projection".toList [], []⟩ := rfl
  have hzoom : Html.run "\" zoom=\"".toList
      ⟨.value (tag []) "projection".toList (Text.escapeChars projection.toList), []⟩
      = some ⟨.value (tag [("projection", projection)]) "zoom".toList [], []⟩ := rfl
  have hlat : Html.run "\" lat=\"".toList ⟨.value (tag [("projection", projection)])
      "zoom".toList (Text.escapeChars zoom.toList), []⟩
      = some ⟨.value (tag [("projection", projection), ("zoom", zoom)]) "lat".toList [], []⟩ := rfl
  have hlon : Html.run "\" lon=\"".toList ⟨.value (tag [("projection", projection), ("zoom", zoom)])
      "lat".toList (Text.escapeChars lat.toList), []⟩
      = some ⟨.value (tag [("projection", projection), ("zoom", zoom), ("lat", lat)])
        "lon".toList [], []⟩ := rfl
  have hclose : Html.run "\" controls controlslist=\"geolocation\">\n".toList
      ⟨.value (tag [("projection", projection), ("zoom", zoom), ("lat", lat)]) "lon".toList
        (Text.escapeChars lon.toList), []⟩
      = some ⟨.text (tag [("projection", projection), ("zoom", zoom), ("lat", lat), ("lon", lon),
        ("controls", ""), ("controlslist", "geolocation")]) (Text.escapeChars "\n".toList), []⟩ :=
    rfl
  have hshape : Html.isPlainShape ("mapml-viewer",
      ["projection", "zoom", "lat", "lon", "controls", "controlslist"]) = true := by
    decide
  refine Html.readField_of_run ?_ hshape
  simp only [String.toList_append, List.append_assoc, -String.reduceToList]
  rw [Html.run_append hprojection, Html.run_append (Html.run_escape_value _),
    Html.run_append hzoom, Html.run_append (Html.run_escape_value _), Html.run_append hlat,
    Html.run_append (Html.run_escape_value _), Html.run_append hlon,
    Html.run_append (Html.run_escape_value _), hclose]

private theorem readField_layer :
    Html.readField (layerTag (Text.escape title) (Text.escape source)).toList
      = some (⟨"layer-", [("label", title), ("src", source), ("checked", "")]⟩, "") := by
  let tag : List (String × String) → Html.RawTag := fun attributes =>
    Html.Tag.written ⟨"layer-", attributes⟩
  have hlabel : Html.run "layer- label=\"".toList ⟨.name [], []⟩
      = some ⟨.value (tag []) "label".toList [], []⟩ := rfl
  have hsource : Html.run "\" src=\"".toList
      ⟨.value (tag []) "label".toList (Text.escapeChars title.toList), []⟩
      = some ⟨.value (tag [("label", title)]) "src".toList [], []⟩ := rfl
  have hclose : Html.run "\" checked>".toList
      ⟨.value (tag [("label", title)]) "src".toList (Text.escapeChars source.toList), []⟩
      = some ⟨.text (tag [("label", title), ("src", source), ("checked", "")]) [], []⟩ := rfl
  have hshape : Html.isPlainShape ("layer-", ["label", "src", "checked"]) = true := by decide
  refine Html.readField_of_run ?_ hshape
  unfold layerTag
  simp only [String.toList_append, List.append_assoc, -String.reduceToList]
  rw [Html.run_append hlabel, Html.run_append (Html.run_escape_value _), Html.run_append hsource,
    Html.run_append (Html.run_escape_value _), hclose]
  rfl

private theorem map_readField (title script projection zoom lat lon source : String) :
    (((frontTags (Text.escape title) (Text.escape script) (Text.escape projection)
        (Text.escape zoom) (Text.escape lat) (Text.escape lon)).tail
      ++ layerTag (Text.escape title) (Text.escape source) :: endTags).map String.toList).map
        Html.readField
      = (pageTags title script projection zoom lat lon source).map some := by
  unfold frontTags endTags pageTags
  simp only [List.tail_cons, List.cons_append, List.nil_append, List.map_cons, List.map_nil,
    List.cons.injEq, and_true, -String.reduceToList]
  refine ⟨?_, ?_, ?_, readField_title, ?_, ?_, ?_, readField_script, ?_, ?_, ?_, ?_, ?_, ?_, ?_,
    ?_, ?_, readField_viewer, readField_layer, ?_, ?_, ?_, ?_⟩
  all_goals decide

private theorem tags_pageSkeleton (title script projection zoom lat lon source : String) :
    Html.tags (pageSkeleton (Text.escape title) (Text.escape script) (Text.escape projection)
      (Text.escape zoom) (Text.escape lat) (Text.escape lon) (Text.escape source))
      = some (pageTags title script projection zoom lat lon source) := by
  refine Html.tags_joinFields (map_readField title script projection zoom lat lon source)
    (List.cons_ne_nil _ _) ?_
  rw [pageSkeleton_eq, Text.toList_join]
  rfl

end

/-- The tags of every page, without the values of their attributes. -/
def pageShape : List (String × List String) :=
  (pageTags "" "" "" "" "" "" "").map fun t => t.1.shape

/-! ### Texts that are not escaped -/

theorem isMarkup_of_isDigit {c : Char} (h : c.isDigit = true) : Text.isMarkup c = false := by
  have hne {d : Char} (hd : d.isDigit = false) : c ≠ d := by
    rintro rfl
    rw [h] at hd
    cases hd
  simp only [Text.isMarkup, List.contains_eq_mem, List.mem_cons, List.not_mem_nil, or_false,
    decide_eq_false_iff_not, not_or]
  exact ⟨hne (by decide), hne (by decide), hne (by decide), hne (by decide), hne (by decide)⟩

private theorem escape_toString (n : Nat) : Text.escape (toString n) = toString n := by
  have hchars : (toString n).toList = Decimal.digitChars n := Nat.toList_repr
  apply Text.escape_eq_self
  intro c hc
  rw [hchars] at hc
  exact isMarkup_of_isDigit (Decimal.isDigit_of_mem_digitChars hc)

theorem escape_text (x : Float) : Text.escape (Decimal.text x) = Decimal.text x := by
  apply Text.escape_eq_self
  intro c hc
  simp only [Text.isMarkup, List.contains_eq_mem, List.mem_cons, List.not_mem_nil, or_false,
    decide_eq_false_iff_not, not_or]
  refine ⟨?_, ?_, ?_, ?_, ?_⟩ <;>
  · rintro rfl
    exact Decimal.notMem_text (by decide) (by decide) x hc

private theorem escape_name (t : Tcrs) : Text.escape t.name = t.name := by
  cases t <;> decide

/-! ### Pages -/

namespace Preview

def tags (v : Preview) : List (Html.Tag × String) :=
  let center := geographicCenter v.tcrs v.bounds
  pageTags v.title v.script v.tcrs.name (toString (v.tcrs.fittingZoom v.bounds v.width v.height))
    (Decimal.text center.y) (Decimal.text center.x) v.source

/-- The texts of a page stand where the skeleton has them and nowhere else. -/
theorem tags_page (v : Preview) : Html.tags v.page = some v.tags := by
  have htags := tags_pageSkeleton v.title v.script v.tcrs.name
    (toString (v.tcrs.fittingZoom v.bounds v.width v.height))
    (Decimal.text (geographicCenter v.tcrs v.bounds).y)
    (Decimal.text (geographicCenter v.tcrs v.bounds).x) v.source
  rw [escape_name, escape_toString, escape_text, escape_text] at htags
  exact htags

theorem shape_tags (v : Preview) : (v.tags.map fun t => t.1.shape) = pageShape := rfl

private theorem eq_of_page_eq {v w : Preview} (h : v.page = w.page) :
    v.title = w.title ∧ v.script = w.script ∧ v.source = w.source := by
  have htags : v.tags = w.tags := by
    rw [← Option.some.injEq, ← tags_page, ← tags_page, h]
  simp only [tags, pageTags, List.cons.injEq, Prod.mk.injEq, Html.Tag.mk.injEq, true_and,
    and_true] at htags
  obtain ⟨htitle, hscript, _, _, hsource⟩ := htags
  exact ⟨htitle, hscript, hsource⟩

end Preview

namespace Publisher

private theorem exists_preview {p : Publisher} {r : Request} {page : String}
    (h : p.preview r = .ok page) :
    ∃ v : Preview, v.tcrs = r.tcrs ∧ page = v.page := by
  obtain ⟨layers, _, h⟩ := bind_eq_ok_iff.mp h
  obtain ⟨d, _, h⟩ := bind_eq_ok_iff.mp h
  exact ⟨p.previewOf r layers d, rfl, (Except.ok.inj h).symm⟩

private theorem exists_preview_of_answer {p : Publisher} {query : String}
    {workspace : Option String} {form : Option Form} {answer : Answer}
    (h : p.answer query workspace form = .ok answer) (htype : answer.mediaType = previewType) :
    ∃ v : Preview, answer.body = v.page := by
  obtain ⟨parameters, _, h⟩ := bind_eq_ok_iff.mp h
  obtain ⟨asked, _, h⟩ := bind_eq_ok_iff.mp h
  obtain ⟨body, hbody, h⟩ := bind_eq_ok_iff.mp h
  cases h
  generalize form.getD (Form.ofOutput asked.output) = form at hbody htype
  cases form with
  | page =>
      obtain ⟨v, _, hv⟩ := exists_preview hbody
      exact ⟨v, hv⟩
  | markup =>
      change Form.markup.mediaType = previewType at htype
      exact absurd htype (by decide)
  | json =>
      change Form.json.mediaType = previewType at htype
      exact absurd htype (by decide)

end Publisher

/-- **No text brings markup into a preview page.** The tags and attributes are the same in all
pages, and the title, the script and the source are read back from the slots they are for. -/
theorem Preview.page_isInert :
    (∀ v : Preview, v.page = pageSkeleton (Text.escape v.title) (Text.escape v.script) v.tcrs.name
      (toString (v.tcrs.fittingZoom v.bounds v.width v.height))
      (Decimal.text (geographicCenter v.tcrs v.bounds).y)
      (Decimal.text (geographicCenter v.tcrs v.bounds).x) (Text.escape v.source))
    ∧ (∀ text : String, (∀ c ∈ ['<', '>', '\'', '"'], c ∉ (Text.escape text).toList)
      ∧ (∀ tail, '&' :: tail <:+ (Text.escape text).toList → ∃ e ∈ Text.entities, e <+: tail)
      ∧ Text.unescapeChars (Text.escape text).toList = some text.toList)
    ∧ (∀ v : Preview, Html.tags v.page = some v.tags
      ∧ (v.tags.map fun t => t.1.shape) = pageShape)
    ∧ (∀ v w : Preview, v.page = w.page →
      v.title = w.title ∧ v.script = w.script ∧ v.source = w.source)
    ∧ ∀ (p : Publisher) (query : String) (workspace : Option String) (form : Option Form)
      (answer : Answer), p.answer query workspace form = .ok answer →
      answer.mediaType = previewType → ∃ v : Preview, answer.body = v.page
        ∧ (Html.tags answer.body).map (List.map fun t => t.1.shape) = some pageShape := by
  refine ⟨fun _ => rfl, fun text => ?_, fun v => ⟨tags_page v, shape_tags v⟩,
    fun _ _ => eq_of_page_eq, fun p query workspace form answer h htype => ?_⟩
  · rw [Text.escape, String.toList_ofList]
    refine ⟨?_, fun _ => Text.exists_entity_of_suffix, Text.unescapeChars_escapeChars _⟩
    have hmarkup : ∀ c ∈ ['<', '>', '\'', '"'], Text.isMarkup c = true ∧ c ≠ '&' := by
      simp [Text.isMarkup]
    intro c hc
    exact Text.notMem_escapeChars (hmarkup c hc).1 (hmarkup c hc).2 _
  · obtain ⟨v, hv⟩ := Publisher.exists_preview_of_answer h htype
    refine ⟨v, hv, ?_⟩
    rw [hv, tags_page, Option.map_some, shape_tags]

/-- A layer whose title is a script is shown by a page with the tags of all pages. -/
theorem Preview.page_isInert_script : ∃ (p : Publisher) (query : String) (answer : Answer),
    p.catalog.entries.map Layer.displayTitle = ["\"><script>alert(1)</script>"]
    ∧ p.answer query none none = .ok answer ∧ answer.mediaType = previewType
    ∧ (Html.tags answer.body).map (List.map fun t => t.1.shape) = some pageShape := by
  let roads : Layer :=
    { name := "roads", title := some "\"><script>alert(1)</script>", bounds := Box.world }
  let p : Publisher := { catalog := ⟨[roads]⟩, service := {} }
  let query := "LAYERS=roads&CRS=OSMTILE&WIDTH=10&HEIGHT=20&FORMAT=text/html"
  have htype : (p.answer query none none).map Answer.mediaType = .ok previewType := by
    decide +kernel
  obtain ⟨answer, hanswer, htype⟩ := map_eq_ok_iff.mp htype
  obtain ⟨_, _, hshape⟩ := Preview.page_isInert.2.2.2.2 p query none none answer hanswer htype
  exact ⟨p, query, answer, by decide +kernel, hanswer, htype, hshape⟩

end MapMarkup
