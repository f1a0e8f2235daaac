import MapMarkup.Preview
import MapMarkup.Proofs.Decimal.ReadBack
import MapMarkup.Proofs.Xml.ReadBack

/-!
# Preview pages read back

A page is its tags, each behind the bracket that opens it (`pageSkeleton_eq`). The texts that go
into a page are escaped and bring no brackets and no quotation marks, so that the tags are those of
the skeleton whatever the texts are, and a value ends where the skeleton ends it. The source of the
layer that a page shows can therefore be read back from the page: `Preview.layerSource?_page`.
-/

namespace MapMarkup

/-! ### Reading tags -/

def tagName? (tag : List Char) : Option String :=
  (Xml.readName tag).map Prod.fst

/-- The first tag of a name in a page, with what follows it up to the next tag. -/
def findTag? (name page : String) : Option (List Char) :=
  (Text.splitFields '<' page.toList).tail.find? fun tag => tagName? tag = some name

/-- The value of an attribute, among what stands outside and inside of quotation marks by turns. -/
def quotedValue? (name : List Char) : List (List Char) → Option (List Char)
  | outside :: inside :: rest =>
    if '>' ∈ outside then none
    else if (' ' :: name ++ ['=']).isSuffixOf outside then some inside
    else quotedValue? name rest
  | _ => none

def attribute? (tag : List Char) (name : String) : Option String :=
  ((quotedValue? name.toList (Text.splitFields '"' tag)).bind Text.unescapeChars).map String.ofList

/-- The source of the layer that a page shows. -/
def layerSource? (page : String) : Option String :=
  (findTag? "layer-" page).bind fun tag => attribute? tag "src"

/-! ### The tags of a page -/

def frontTags (title script projection zoom lat lon : String) : List String :=
  ["", "!DOCTYPE html>\n", "html>\n", "head>\n", "title>" ++ title, "/title>\n",
    "meta charset=\"utf-8\">\n",
    "meta name=\"viewport\" content=\"width=device-width,initial-scale=1\">\n",
    "script type=\"module\" src=\"" ++ script ++ "\">", "/script>\n",
    "style>\n" ++ "html, body \x7b height: 100%; margin: 0; \x7d\n"
      ++ "mapml-viewer \x7b width: 100%; height: 100%; \x7d\n",
    "/style>\n", "noscript>\n",
    "style>\n" ++ "mapml-viewer:not(:defined) > :not(layer-) \x7b display: initial; \x7d\n",
    "/style>\n", "/noscript>\n", "/head>\n", "body>\n",
    "mapml-viewer projection=\"" ++ projection ++ "\" zoom=\"" ++ zoom ++ "\" lat=\"" ++ lat
      ++ "\" lon=\"" ++ lon ++ "\" controls controlslist=\"geolocation\">\n"]

def layerTag (title source : String) : String :=
  "layer- label=\"" ++ title ++ "\" src=\"" ++ source ++ "\" checked>"

def endTags : List String :=
  ["/layer->\n", "/mapml-viewer>\n", "/body>\n", "/html>\n"]

variable {title script projection zoom lat lon source : String}

theorem pageSkeleton_eq (title script projection zoom lat lon source : String) :
    pageSkeleton title script projection zoom lat lon source = Text.join '<'
      (frontTags title script projection zoom lat lon ++ layerTag title source :: endTags) := by
  have hhead : "<!DOCTYPE html>\n<html>\n<head>\n<title>".toList
      = '<' :: ("!DOCTYPE html>\n".toList ++ '<' :: ("html>\n".toList ++ '<' :: ("head>\n".toList
        ++ '<' :: "title>".toList))) := by
    decide +kernel
  have hcharset : "</title>\n<meta charset=\"utf-8\">\n".toList
      = '<' :: ("/title>\n".toList ++ '<' :: "meta charset=\"utf-8\">\n".toList) := by
    decide +kernel
  have hviewport :
      "<meta name=\"viewport\" content=\"width=device-width,initial-scale=1\">\n".toList
      = '<' :: "meta name=\"viewport\" content=\"width=device-width,initial-scale=1\">\n".toList
      := by
    decide +kernel
  have hscript : "<script type=\"module\" src=\"".toList
      = '<' :: "script type=\"module\" src=\"".toList := by
    decide +kernel
  have hstyle : "\"></script>\n<style>\n".toList
      = "\">".toList ++ '<' :: ("/script>\n".toList ++ '<' :: "style>\n".toList) := by
    decide +kernel
  have hviewer :
      "mapml-viewer \x7b width: 100%; height: 100%; \x7d\n</style>\n<noscript>\n<style>\n".toList
      = "mapml-viewer \x7b width: 100%; height: 100%; \x7d\n".toList ++ '<' :: ("/style>\n".toList
        ++ '<' :: ("noscript>\n".toList ++ '<' :: "style>\n".toList)) := by
    decide +kernel
  have hbody : "</style>\n</noscript>\n</head>\n<body>\n<mapml-viewer projection=\"".toList
      = '<' :: ("/style>\n".toList ++ '<' :: ("/noscript>\n".toList ++ '<' :: ("/head>\n".toList
        ++ '<' :: ("body>\n".toList ++ '<' :: "mapml-viewer projection=\"".toList)))) := by
    decide +kernel
  have hlayer : "\" controls controlslist=\"geolocation\">\n<layer- label=\"".toList
      = "\" controls controlslist=\"geolocation\">\n".toList ++ '<' :: "layer- label=\"".toList
      := by
    decide +kernel
  have hend : "\" checked></layer->\n</mapml-viewer>\n</body>\n</html>\n".toList
      = "\" checked>".toList ++ '<' :: ("/layer->\n".toList ++ '<' :: ("/mapml-viewer>\n".toList
        ++ '<' :: ("/body>\n".toList ++ '<' :: "/html>\n".toList))) := by
    decide +kernel
  apply String.toList_injective
  rw [Text.toList_join]
  unfold pageSkeleton frontTags layerTag endTags
  simp only [List.map_cons, List.map_nil, Text.joinFields, String.toList_append,
    String.toList_empty, List.nil_append, List.append_assoc, List.cons_append, hhead, hcharset,
    hviewport, hscript, hstyle, hviewer, hbody, hlayer, hend]

private theorem bracket_notMem_append {a b : String} :
    '<' ∉ (a ++ b).toList ↔ '<' ∉ a.toList ∧ '<' ∉ b.toList := by
  rw [String.toList_append, List.mem_append, not_or]

private theorem bracket_notMem_tags
    (h : ∀ slot ∈ [title, script, projection, zoom, lat, lon, source], '<' ∉ slot.toList) :
    ∀ tag ∈ frontTags title script projection zoom lat lon ++ layerTag title source :: endTags,
      '<' ∉ tag.toList := by
  obtain ⟨htitle, hscript, hprojection, hzoom, hlat, hlon, hsource, _⟩ := by
    simpa only [List.forall_mem_cons] using h
  rw [List.forall_mem_append]
  unfold frontTags layerTag endTags
  simp only [List.forall_mem_cons, bracket_notMem_append]
  and_intros
  all_goals first | with_reducible assumption | decide

/-- The name of a tag ends before the first character that cannot stand in it. -/
theorem tagName?_append {text rest : String} (h : text.toList.all Xml.isNameChar = false) :
    tagName? (text ++ rest).toList = tagName? text.toList := by
  have hshort : (text.toList.takeWhile Xml.isNameChar).length ≠ text.toList.length := by
    intro hlength
    have hall := (List.takeWhile_prefix Xml.isNameChar).eq_of_length hlength
    rw [List.takeWhile_eq_self_iff, ← List.all_eq_true, h] at hall
    cases hall
  unfold tagName? Xml.readName
  rw [String.toList_append, List.takeWhile_append, if_neg hshort]
  split <;> rfl

private theorem tagName?_frontTags : ∀ tag ∈ frontTags title script projection zoom lat lon,
    tagName? tag.toList ≠ some "layer-" := by
  have htitle : tagName? ("title>" ++ title).toList = some "title" :=
    (tagName?_append (by decide)).trans (by decide)
  have hscript : tagName? ("script type=\"module\" src=\"" ++ (script ++ "\">")).toList
      = some "script" :=
    (tagName?_append (by decide)).trans (by decide)
  have hviewer (rest : String) : tagName? ("mapml-viewer projection=\"" ++ rest).toList
      = some "mapml-viewer" :=
    (tagName?_append (by decide)).trans (by decide)
  simp only [frontTags, List.forall_mem_cons, String.append_assoc, htitle, hscript, hviewer]
  and_intros
  all_goals decide

private theorem tagName?_layerTag : tagName? (layerTag title source).toList = some "layer-" := by
  have hstart : layerTag title source
      = "layer- label=\"" ++ (title ++ ("\" src=\"" ++ (source ++ "\" checked>"))) := by
    unfold layerTag
    rw [String.append_assoc, String.append_assoc, String.append_assoc]
  rw [hstart]
  exact (tagName?_append (by decide)).trans (by decide)

private theorem splitFields_pageSkeleton
    (h : ∀ slot ∈ [title, script, projection, zoom, lat, lon, source], '<' ∉ slot.toList) :
    Text.splitFields '<' (pageSkeleton title script projection zoom lat lon source).toList
      = (frontTags title script projection zoom lat lon ++ layerTag title source :: endTags).map
        String.toList := by
  rw [pageSkeleton_eq, Text.toList_join]
  refine Text.splitFields_joinFields (by simp [frontTags]) fun part hpart => ?_
  obtain ⟨tag, htag, rfl⟩ := List.mem_map.mp hpart
  exact bracket_notMem_tags h tag htag

private theorem findTag?_pageSkeleton
    (h : ∀ slot ∈ [title, script, projection, zoom, lat, lon, source], '<' ∉ slot.toList) :
    findTag? "layer-" (pageSkeleton title script projection zoom lat lon source)
      = some (layerTag title source).toList := by
  have hfront : ((frontTags title script projection zoom lat lon).map String.toList).tail.find?
      (fun tag => tagName? tag = some "layer-") = none := by
    rw [List.find?_eq_none]
    intro tag htag
    obtain ⟨text, htext, rfl⟩ := List.mem_map.mp (List.mem_of_mem_tail htag)
    exact fun hname => tagName?_frontTags text htext (of_decide_eq_true hname)
  have hne : (frontTags title script projection zoom lat lon).map String.toList ≠ [] :=
    List.cons_ne_nil _ _
  unfold findTag?
  rw [splitFields_pageSkeleton h, List.map_append, List.tail_append_of_ne_nil hne,
    List.find?_append, hfront, Option.none_or, List.map_cons, List.find?_cons_of_pos]
  exact decide_eq_true tagName?_layerTag

/-! ### Attributes -/

/-- The source of the layer ends where the skeleton ends it. -/
theorem attribute?_layerTag (title source : String) :
    attribute? (layerTag (Text.escape title) (Text.escape source)).toList "src" = some source := by
  have hparts : (layerTag (Text.escape title) (Text.escape source)).toList
      = Text.joinFields '"' ["layer- label=".toList, Text.escapeChars title.toList, " src=".toList,
        Text.escapeChars source.toList, " checked>".toList] := by
    have hlabel : "layer- label=\"".toList = "layer- label=".toList ++ ['"'] := by decide
    have hsource : "\" src=\"".toList = '"' :: (" src=".toList ++ ['"']) := by decide
    have hchecked : "\" checked>".toList = '"' :: " checked>".toList := by decide
    unfold layerTag Text.escape
    simp only [Text.joinFields, String.toList_append, String.toList_ofList, hlabel, hsource,
      hchecked, List.append_assoc, List.cons_append, List.nil_append]
  have hquotes : ∀ part ∈ ["layer- label=".toList, Text.escapeChars title.toList, " src=".toList,
      Text.escapeChars source.toList, " checked>".toList], '"' ∉ part := by
    have htitle : '"' ∉ Text.escapeChars title.toList :=
      Text.notMem_escapeChars (by decide) (by decide) _
    have hsource : '"' ∉ Text.escapeChars source.toList :=
      Text.notMem_escapeChars (by decide) (by decide) _
    simp only [List.forall_mem_cons]
    exact ⟨by decide, htitle, by decide, hsource, by decide, by simp⟩
  unfold attribute?
  rw [hparts, Text.splitFields_joinFields (List.cons_ne_nil _ _) hquotes]
  have hlabel : ¬ '>' ∈ "layer- label=".toList
      ∧ (' ' :: "src".toList ++ ['=']).isSuffixOf "layer- label=".toList = false := by
    decide
  have hsrc : ¬ '>' ∈ " src=".toList
      ∧ (' ' :: "src".toList ++ ['=']).isSuffixOf " src=".toList = true := by
    decide
  rw [quotedValue?, if_neg hlabel.1, hlabel.2, if_neg Bool.false_ne_true, quotedValue?,
    if_neg hsrc.1, if_pos hsrc.2, Option.bind_some, Text.unescapeChars_escapeChars, Option.map_some,
    String.ofList_toList]

/-! ### Pages -/

private theorem bracket_notMem_toString (n : Nat) : '<' ∉ (toString n).toList := by
  have hchars : (toString n).toList = Decimal.digitChars n := Nat.toList_repr
  intro hbracket
  rw [hchars] at hbracket
  cases Decimal.isDigit_of_mem_digitChars hbracket

theorem bracket_notMem_escape (text : String) : '<' ∉ (Text.escape text).toList := by
  unfold Text.escape
  rw [String.toList_ofList]
  exact Text.notMem_escapeChars (by decide) (by decide) _

/-- The layer of a page is loaded from the source that the page was made for, whatever its other
texts are. -/
theorem Preview.layerSource?_page (p : Preview) : layerSource? p.page = some p.source := by
  have hname : '<' ∉ p.tcrs.name.toList := by
    cases p.tcrs <;> decide
  have hfloat (x : Float) : '<' ∉ (Decimal.text x).toList :=
    Decimal.notMem_text (by decide) (by decide) x
  unfold page layerSource?
  dsimp only
  rw [findTag?_pageSkeleton, Option.bind_some, attribute?_layerTag]
  simp only [List.forall_mem_cons]
  exact ⟨bracket_notMem_escape _, bracket_notMem_escape _, hname, bracket_notMem_toString _,
    hfloat _, hfloat _, bracket_notMem_escape _, List.forall_mem_nil _⟩

end MapMarkup
