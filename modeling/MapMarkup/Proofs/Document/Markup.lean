import MapMarkup.Document.Markup
import MapMarkup.Proofs.Decimal.ReadBack
import MapMarkup.Proofs.Xml.ReadBack

/-!
# The markup of a document loses nothing

The text of a document, read as XML, is the element tree of the document, and the tree determines
the document: `Document.read_markup`. Only titles and options hold text. An attribute that may be
left out has a name of its own in its tag, so it is either found under its name or was not there;
the numbers in attributes read back because the text of a float does.
-/

namespace MapMarkup

open Xml

/-! ### Attributes -/

theorem map_fst_optional (name : String) (value : Option String) :
    ((optional name value).map Prod.fst).Sublist [name] := by
  cases value with
  | none => exact List.nil_sublist _
  | some v => exact List.Sublist.refl _

theorem map_fst_flag (name value : String) (set : Bool) :
    ((flag name value set).map Prod.fst).Sublist [name] := by
  cases set with
  | false => exact List.nil_sublist _
  | true => exact List.Sublist.refl _

theorem lookup_optional (key name : String) (value : Option String) :
    (optional name value).lookup key = if key == name then value else none := by
  cases value with
  | none => simp [optional]
  | some v => cases hkey : key == name <;> simp [optional, hkey]

theorem lookup_flag (key name value : String) (set : Bool) :
    (flag name value set).lookup key = if key == name && set then some value else none := by
  cases set with
  | false => simp [flag]
  | true => cases hkey : key == name <;> simp [flag, hkey]

theorem isTag_of_sublist {name : String} {attributes : List Attribute} (names : List String)
    (hname : IsName name) (hnames : names.Nodup ∧ ∀ n ∈ names, IsName n)
    (h : (attributes.map Prod.fst).Sublist names) : IsTag name attributes where
  name := hname
  names a ha := hnames.2 a.1 (h.subset (List.mem_map_of_mem ha))
  nodup := hnames.1.sublist h

/-! ### Elements that read back -/

def holdsText (name : String) : Bool :=
  name = "map-title" || name = "map-option"

theorem Link.isProper (l : Link) : l.element.IsProper holdsText := by
  refine .leaf (isTag_of_sublist
    (["rel"] ++ ["type"] ++ ["projection"] ++ ["tref"] ++ ["href"]) (by decide) (by decide) ?_)
  simp only [List.map_append, List.map_cons]
  exact ((((map_fst_optional _ _).cons_cons "rel").append (map_fst_optional _ _)).append
    (map_fst_optional _ _)).append (map_fst_optional _ _)

theorem Input.isProper (i : Input) : i.element.IsProper holdsText := by
  refine .leaf (isTag_of_sublist
    (["name", "type"] ++ ["units"] ++ ["axis"] ++ ["position"] ++ ["list"] ++ ["shard"]
      ++ ["min"] ++ ["max"] ++ ["value"]) (by decide) (by decide) ?_)
  simp only [List.map_append, List.map_cons]
  exact ((((((((((map_fst_optional _ _).cons_cons "type").cons_cons "name").append
    (map_fst_optional _ _)).append (map_fst_optional _ _)).append (map_fst_optional _ _)).append
    (map_fst_flag _ _ _)).append (map_fst_optional _ _)).append (map_fst_optional _ _)).append
    (map_fst_optional _ _))

theorem Datalist.isProper (d : Datalist) : d.element.IsProper holdsText := by
  refine .block (isTag_of_sublist ["id"] (by decide) (by decide) (List.Sublist.refl _))
    rfl fun e he => ?_
  obtain ⟨o, _, rfl⟩ := List.mem_map.mp he
  exact .text (isTag_of_sublist ["value"] (by decide) (by decide) (List.Sublist.refl _))
    rfl o.1

theorem Node.isProper (n : Node) : n.element.IsProper holdsText := by
  cases n with
  | link l => exact l.isProper
  | input i => exact i.isProper
  | datalist d => exact d.isProper

theorem Extent.isProper (e : Extent) : e.element.IsProper holdsText := by
  refine .block (isTag_of_sublist
    (["units"] ++ ["label"] ++ ["checked"] ++ ["hidden"]) (by decide) (by decide) ?_)
    rfl fun child hchild => ?_
  · simp only [List.map_append, List.map_cons]
    exact (((map_fst_optional _ _).cons_cons "units").append (map_fst_flag _ _ _)).append
      (map_fst_flag _ _ _)
  · obtain ⟨n, _, rfl⟩ := List.mem_map.mp hchild
    exact n.isProper

theorem Meta.isProper (m : Meta) : m.element.IsProper holdsText := by
  cases m with
  | charset c =>
      exact .leaf (isTag_of_sublist ["charset"] (by decide) (by decide)
        (List.Sublist.refl _))
  | httpEquiv field content =>
      exact .leaf (isTag_of_sublist ["http-equiv", "content"] (by decide) (by decide)
        (List.Sublist.refl _))
  | named name content =>
      exact .leaf (isTag_of_sublist ["name", "content"] (by decide) (by decide)
        (List.Sublist.refl _))

theorem Head.isProper (h : Head) : h.element.IsProper holdsText := by
  refine .block (isTag_of_sublist [] (by decide) (by decide) (List.Sublist.refl _))
    rfl fun e he => ?_
  rcases List.mem_cons.mp he with rfl | he
  · exact .text (isTag_of_sublist [] (by decide) (by decide) (List.Sublist.refl _))
      rfl h.title
  rcases List.mem_cons.mp he with rfl | he
  · exact .leaf (isTag_of_sublist ["href"] (by decide) (by decide)
      (List.Sublist.refl _))
  rcases List.mem_append.mp he with he | he
  · obtain ⟨m, _, rfl⟩ := List.mem_map.mp he
    exact m.isProper
  · obtain ⟨l, _, rfl⟩ := List.mem_map.mp he
    exact l.isProper

theorem Document.isProper (d : Document) : d.element.IsProper holdsText := by
  refine .block (isTag_of_sublist ["xmlns"] (by decide) (by decide)
    (List.Sublist.refl _)) rfl fun e he => ?_
  rcases List.mem_cons.mp he with rfl | he
  · exact d.head.isProper
  · rw [List.mem_singleton.mp he]
    refine .block (isTag_of_sublist [] (by decide) (by decide) (List.Sublist.refl _))
      rfl fun e he => ?_
    obtain ⟨x, _, rfl⟩ := List.mem_map.mp he
    exact x.isProper

/-! ### Trees determine documents -/

theorem eq_of_flag {set set' : Bool} {value : String}
    (h : (if set = true then some value else none) = if set' = true then some value else none) :
    set = set' := by
  cases set <;> cases set' <;> simp_all

private theorem Rel.markupWord_injective : Function.Injective Rel.markupWord := by
  intro r r' h
  revert h
  cases r <;> cases r' <;> decide

theorem Tcrs.name_injective : Function.Injective Tcrs.name := by
  intro t t' h
  revert h
  cases t <;> cases t' <;> decide

theorem InputType.word_injective : Function.Injective InputType.word := by
  intro t t' h
  revert h
  cases t <;> cases t' <;> decide

theorem Units.word_injective : Function.Injective Units.word := by
  intro u u' h
  revert h
  cases u <;> cases u' <;> decide

theorem Axis.word_injective : Function.Injective Axis.word := by
  intro a a' h
  revert h
  cases a <;> cases a' <;> decide

theorem Corner.word_injective : Function.Injective Corner.word := by
  intro c c' h
  revert h
  cases c <;> cases c' <;> decide

theorem Link.element_injective : Function.Injective Link.element := by
  intro l l' h
  rw [Link.element, Link.element, Element.leaf.injEq] at h
  have hlookup (key : String) := congrArg (List.lookup key) h.2
  have hrel := hlookup "rel"
  have htype := hlookup "type"
  have hprojection := hlookup "projection"
  have htref := hlookup "tref"
  have hhref := hlookup "href"
  simp [List.lookup_append, List.lookup_cons, lookup_optional] at hrel htype hprojection htref hhref
  obtain ⟨rel, tref, href, mediaType, projection⟩ := l
  rw [Link.mk.injEq]
  exact ⟨Rel.markupWord_injective hrel, htref, hhref, htype,
    Option.map_injective Tcrs.name_injective hprojection⟩

theorem Input.element_injective : Function.Injective Input.element := by
  intro i i' h
  rw [Input.element, Input.element, Element.leaf.injEq] at h
  have hlookup (key : String) := congrArg (List.lookup key) h.2
  have hname := hlookup "name"
  have htype := hlookup "type"
  have hunits := hlookup "units"
  have haxis := hlookup "axis"
  have hposition := hlookup "position"
  have hlist := hlookup "list"
  have hshard := hlookup "shard"
  have hmin := hlookup "min"
  have hmax := hlookup "max"
  have hvalue := hlookup "value"
  simp [List.lookup_append, List.lookup_cons, lookup_optional, lookup_flag] at hname htype hunits
  simp [List.lookup_append, List.lookup_cons, lookup_optional, lookup_flag] at haxis hposition
  simp [List.lookup_append, List.lookup_cons, lookup_optional, lookup_flag] at hlist hshard hmin
  simp [List.lookup_append, List.lookup_cons, lookup_optional, lookup_flag] at hmax hvalue
  obtain ⟨name, type, units, axis, position, min, max, value, list, shard⟩ := i
  rw [Input.mk.injEq]
  exact ⟨hname, InputType.word_injective htype, Option.map_injective Units.word_injective hunits,
    Option.map_injective Axis.word_injective haxis,
    Option.map_injective Corner.word_injective hposition,
    Option.map_injective (fun _ _ => Decimal.text_injective) hmin,
    Option.map_injective (fun _ _ => Decimal.text_injective) hmax, hvalue, hlist,
    eq_of_flag hshard⟩

theorem Datalist.element_injective : Function.Injective Datalist.element := by
  intro d d' h
  rw [Datalist.element, Datalist.element, Element.block.injEq] at h
  obtain ⟨_, hid, hoptions⟩ := h
  have hoption : Function.Injective fun o : String × String =>
      Element.text "map-option" [("value", o.2)] o.1 := by
    rintro ⟨label, value⟩ ⟨label', value'⟩ ho
    cases ho
    rfl
  obtain ⟨id, options⟩ := d
  rw [Datalist.mk.injEq]
  exact ⟨by simpa using hid, List.map_injective_iff.mpr hoption hoptions⟩

theorem Node.element_injective : Function.Injective Node.element := by
  intro n n' h
  cases n with
  | link l =>
      cases n' with
      | link l' => rw [Link.element_injective h]
      | input i => exact absurd (Element.leaf.inj h).1 (by decide)
      | datalist d => cases h
  | input i =>
      cases n' with
      | link l => exact absurd (Element.leaf.inj h).1 (by decide)
      | input i' => rw [Input.element_injective h]
      | datalist d => cases h
  | datalist d =>
      cases n' with
      | link l => cases h
      | input i => cases h
      | datalist d' => rw [Datalist.element_injective h]

theorem Extent.element_injective : Function.Injective Extent.element := by
  intro e e' h
  rw [Extent.element, Extent.element, Element.block.injEq] at h
  have hlookup (key : String) := congrArg (List.lookup key) h.2.1
  have hunits := hlookup "units"
  have hlabel := hlookup "label"
  have hchecked := hlookup "checked"
  have hhidden := hlookup "hidden"
  simp [List.lookup_append, List.lookup_cons, lookup_optional, lookup_flag] at hunits hlabel
  simp [List.lookup_append, List.lookup_cons, lookup_optional, lookup_flag] at hchecked hhidden
  obtain ⟨units, label, checked, hidden, nodes⟩ := e
  rw [Extent.mk.injEq]
  exact ⟨Tcrs.name_injective hunits, hlabel, eq_of_flag hchecked, eq_of_flag hhidden,
    List.map_injective_iff.mpr Node.element_injective h.2.2⟩

theorem Meta.element_injective : Function.Injective Meta.element := by
  intro m m' h
  cases m <;> cases m' <;> simp_all [Meta.element]

/-- The pieces of metadata end where the links begin. -/
theorem metas_links_injective {metas metas' : List Meta} {links links' : List Link}
    (h : metas.map Meta.element ++ links.map Link.element
      = metas'.map Meta.element ++ links'.map Link.element) : metas = metas' ∧ links = links' := by
  have hne (m : Meta) (l : Link) : m.element ≠ l.element := by
    intro heq
    cases m <;> exact absurd (Element.leaf.inj heq).1 (by decide)
  induction metas generalizing metas' with
  | nil =>
      cases metas' with
      | nil => exact ⟨rfl, List.map_injective_iff.mpr Link.element_injective h⟩
      | cons m metas' =>
          cases links with
          | nil => cases h
          | cons l links => exact absurd (List.cons.inj h).1.symm (hne m l)
  | cons m metas ih =>
      cases metas' with
      | nil =>
          cases links' with
          | nil => cases h
          | cons l links' => exact absurd (List.cons.inj h).1 (hne m l)
      | cons m' metas' =>
          obtain ⟨hm, hrest⟩ := List.cons.inj h
          obtain ⟨hmetas, hlinks⟩ := ih hrest
          exact ⟨by rw [Meta.element_injective hm, hmetas], hlinks⟩

theorem Head.element_injective : Function.Injective Head.element := by
  intro d d' h
  rw [Head.element, Head.element, Element.block.injEq] at h
  obtain ⟨htitle, hrest⟩ := List.cons.inj h.2.2
  obtain ⟨hbase, hrest⟩ := List.cons.inj hrest
  obtain ⟨hmetas, hlinks⟩ := metas_links_injective hrest
  obtain ⟨title, base, metas, links⟩ := d
  rw [Head.mk.injEq]
  exact ⟨(Element.text.inj htitle).2.2, by simpa using hbase, hmetas, hlinks⟩

theorem Document.element_injective : Function.Injective Document.element := by
  intro d d' h
  rw [Document.element, Document.element, Element.block.injEq] at h
  obtain ⟨hhead, hrest⟩ := List.cons.inj h.2.2
  have hbody := (Element.block.inj (List.cons.inj hrest).1).2.2
  obtain ⟨head, extents⟩ := d
  rw [Document.mk.injEq]
  exact ⟨Head.element_injective hhead, List.map_injective_iff.mpr Extent.element_injective hbody⟩

/-- **The markup of a document loses nothing.** Read as XML, it is the element tree of the document,
and no other document has the same markup. -/
theorem Document.read_markup (d : Document) : Xml.read holdsText d.markup = some d.element
    ∧ ∀ d' : Document, d'.markup = d.markup → d' = d := by
  have hread (d : Document) : Xml.read holdsText d.markup = some d.element :=
    read_textOf d.isProper
  refine ⟨hread d, fun d' h => ?_⟩
  have hread' := hread d'
  rw [h, hread d] at hread'
  exact (Document.element_injective (Option.some.inj hread')).symm

end MapMarkup
