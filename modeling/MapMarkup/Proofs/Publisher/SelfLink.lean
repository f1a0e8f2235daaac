import MapMarkup.Proofs.Box.Order
import MapMarkup.Proofs.Extent.Closed
import MapMarkup.Proofs.GetMap.DocumentUrl
import MapMarkup.Proofs.Publisher.Refusal

/-!
# Following the self link

The head of a document holds one link to the document. A client that follows it asks for the same
layers, styles, box, size and language, and gets a document with the same head. The link does not
carry the image format that a request may ask for: `Publisher.document_followed` says that the
document behind the link is the one of the request without its image format, and that this is the
same document exactly when the service would have used that format anyway.

That a document tells the image format it was made with follows from the text of its first template,
in which the format is the only part that changes (`Template.eq_of_text_eq`).
-/

namespace MapMarkup

/-! ### What templates tell -/

/-- A template tells the value of each of its parameters. -/
theorem Template.eq_of_text_eq {endpoint name value value' : String}
    {before after : List (String × String)}
    (h : (Template.mk endpoint (before ++ (name, value) :: after)).text
      = (Template.mk endpoint (before ++ (name, value') :: after)).text) : value = value' := by
  obtain ⟨front, back, hjoin⟩ := Text.joinFields_around '&' (before.map parameter)
    (after.map parameter)
  have htext (value : String) :
      (Template.mk endpoint (before ++ (name, value) :: after)).text.toList
        = (endpoint.toList ++ '?' :: front ++ name.toList ++ ['=']) ++ (value.toList ++ back) := by
    rw [toList_text, List.map_append, List.map_cons, hjoin, parameter]
    simp
  have hlist := congrArg String.toList h
  rw [htext, htext] at hlist
  exact String.toList_injective (List.append_cancel_right (List.append_cancel_left hlist))

def ImageSource.withFormat (s : ImageSource) (format : String) : ImageSource :=
  { s with imageFormat := format }

private theorem ImageSource.eq_of_text_withFormat {s : ImageSource} {f f' : String}
    (h : (s.withFormat f).imageTemplate.text = (s.withFormat f').imageTemplate.text) : f = f' := by
  have hmap (f : String) : (s.withFormat f).mapTemplate = ⟨s.mapEndpoint,
      s.mapTemplate.params.take 7 ++ ("format", f) :: s.mapTemplate.params.drop 8⟩ := rfl
  have hcache (f : String) : (s.withFormat f).cacheTemplate = ⟨s.cacheEndpoint,
      s.cacheParams "GetTile" ++ [("format", f)]⟩ := rfl
  have hfetching (f : String) : (s.withFormat f).fetching = s.fetching := rfl
  unfold imageTemplate at h
  rw [hfetching, hfetching] at h
  cases hkind : s.fetching <;> rw [hkind] at h <;> dsimp only at h
  · rw [hmap, hmap] at h
    exact Template.eq_of_text_eq h
  · rw [hmap, hmap] at h
    exact Template.eq_of_text_eq h
  · rw [hcache, hcache] at h
    exact Template.eq_of_text_eq h

namespace ExtentContext

variable {c : ExtentContext} {layers : List RequestedLayer}

/-- The source of the images of layers that share an extent, but for the zoom range. -/
def coverSource (c : ExtentContext) : List RequestedLayer → ImageSource
  | [r] => c.singleSource r ZoomRange.native
  | layers => c.combinedSource layers

theorem firstTref_eq {e : Extent} {s : ImageSource} (h : e.nodes = s.nodes) :
    e.links.head?.bind Link.tref = some s.imageTemplate.text := by
  rw [ImageSource.links_eq h]
  rfl

theorem compose_firstTref {f : String} {es : List Extent}
    (h : compose { c with imageFormat := f } layers = .ok es) :
    List.Forall₂ (fun covered e => e.links.head?.bind Link.tref
      = some ((c.coverSource covered).withFormat f).imageTemplate.text) (c.cover layers) es := by
  have hcover : c.cover layers = cover { c with imageFormat := f } layers := rfl
  rw [hcover]
  refine forall₂_cover h (fun hmany => ?_) fun r _ z alone => ?_
  · match layers with
    | r :: next :: rest => exact firstTref_eq rfl
  · exact firstTref_eq (s := singleSource { c with imageFormat := f } r z) rfl

private theorem cover_ne_nil (c : ExtentContext) (layers : List RequestedLayer) :
    c.cover layers ≠ [] := by
  unfold cover
  split
  case isTrue h =>
    rw [ne_eq, List.map_eq_nil_iff]
    rintro rfl
    exact absurd h.2 (by simp)
  case isFalse => exact List.cons_ne_nil _ _

/-- The extents of a document tell its image format. -/
theorem imageFormat_eq_of_compose {f : String} {es : List Extent}
    (h : c.compose layers = .ok es) (h' : compose { c with imageFormat := f } layers = .ok es) :
    c.imageFormat = f := by
  have htrefs := compose_firstTref (c := c) (f := c.imageFormat) h
  have htrefs' := compose_firstTref h'
  obtain ⟨covered, rest, hcover⟩ := List.exists_cons_of_ne_nil (c.cover_ne_nil layers)
  rw [hcover] at htrefs htrefs'
  obtain ⟨e, es, hfirst, _, rfl⟩ := List.forall₂_cons_left_iff.mp htrefs
  obtain ⟨_, _, hfirst', _, heq⟩ := List.forall₂_cons_left_iff.mp htrefs'
  cases heq
  exact ImageSource.eq_of_text_withFormat (Option.some.inj (hfirst.symm.trans hfirst'))

end ExtentContext

/-- What the URL of a document keeps of a request. -/
def Request.linked (r : Request) : Request :=
  { r with version := "1.3.0", output := .document, imageFormat := none, workspace := none }

theorem toRequest_linked {parameters : Parameters} {r : Request} {b : Box}
    (hr : parameters.toRequest = .ok r) (hbox : r.bbox = some b) :
    (documentParameters r r.tcrs b).toRequest = .ok r.linked := by
  obtain ⟨hfinite, hordered⟩ := Parameters.isOrdered_of_toRequest hr hbox
  rw [toRequest_documentParameters (Parameters.isChecked_of_toRequest hr) r.tcrs hfinite
    hordered.x hordered.y, ← hbox]
  rfl

private theorem toRequest_selfLink {query base : String} {r : Request} {b : Box}
    (hr : (Parameters.read query >>= Parameters.toRequest) = .ok r) (hbox : r.bbox = some b)
    (hbase : '?' ∉ base.toList) :
    (Parameters.read (documentUrl base r r.tcrs b) >>= Parameters.toRequest) = .ok r.linked := by
  rw [Parameters.read_toRequest] at hr ⊢
  rw [ofQuery_documentUrl hbase, toRequest_linked hr hbox]

namespace Publisher

variable {p : Publisher} {r : Request} {d : Document}

private theorem selfLinks_head (p : Publisher) (r : Request) (layers : List RequestedLayer) :
    (p.head r layers).links.filter (fun l => l.rel = .selfStyle)
      = [selfLink (p.service.base r.workspace) r (p.bounds r layers)] := by
  have halternate : (p.alternateLinks (p.service.base r.workspace) r (p.bounds r layers)).filter
      (fun l => l.rel = .selfStyle) = [] := by
    rw [List.filter_eq_nil_iff]
    intro l hl
    obtain ⟨_, _, rfl⟩ := List.mem_map.mp hl
    simp [Link.reference]
  unfold head
  dsimp only
  rw [List.filter_cons_of_pos (by rfl), halternate]

theorem selfLinks_of_document {b : Box} (h : p.document r = .ok d) (hbox : r.bbox = some b) :
    (d.head.links.filter fun l => l.rel = .selfStyle).map Link.href
      = [some (documentUrl (p.service.base r.workspace) r r.tcrs b)] := by
  obtain ⟨layers, _, hassemble⟩ := bind_eq_ok_iff.mp h
  obtain ⟨es, _, rfl⟩ := map_eq_ok_iff.mp hassemble
  have hbounds : p.bounds r layers = b := by
    unfold bounds
    rw [hbox]
  dsimp only
  rw [selfLinks_head, hbounds]
  rfl

/-- A request without its image format has a document with the same head, which is the same document
exactly when the service would have used that format. -/
theorem document_withoutFormat (h : p.document r = .ok d) :
    ∃ d', p.document { r with imageFormat := none } = .ok d' ∧ d'.head = d.head
      ∧ (d' = d ↔ r.imageFormat.getD p.service.imageFormat = p.service.imageFormat) := by
  have hasked : ∃ d', p.document { r with imageFormat := none } = .ok d' :=
    exists_document_iff.mpr ((exists_document_iff (r := r)).mp ⟨d, h⟩)
  obtain ⟨d', h'⟩ := hasked
  obtain ⟨layers, hlayers, hassemble⟩ := bind_eq_ok_iff.mp h
  have hlayers' : p.resolveLayers { r with imageFormat := none } = .ok layers := hlayers
  have hdocument' := h'
  rw [document_eq hlayers'] at hdocument'
  obtain ⟨es, hes, rfl⟩ := map_eq_ok_iff.mp hassemble
  obtain ⟨es', hes', rfl⟩ := map_eq_ok_iff.mp hdocument'
  have hcontext : p.extentContext { r with imageFormat := none } layers
      = { p.extentContext r layers with imageFormat := p.service.imageFormat } := rfl
  rw [hcontext] at hes'
  refine ⟨_, h', rfl, fun heq => ?_, fun heq => ?_⟩
  · have hextents : es' = es := congrArg Document.extents heq
    rw [hextents] at hes'
    exact ExtentContext.imageFormat_eq_of_compose hes hes'
  · rw [← heq] at hes'
    have hextents := Except.ok.inj (hes'.symm.trans hes)
    rw [hextents]
    rfl

/-- **Following the self link.** Addressed to the same workspace, the single self link of a document
leads to the document of the request without its image format. -/
theorem document_followed {query : String} {asked : Request} {b : Box} {workspace : Option String}
    (hasked : (Parameters.read query >>= Parameters.toRequest) = .ok asked)
    (hbox : asked.bbox = some b) (hurl : '?' ∉ p.service.baseUrl.toList)
    (hworkspace : ∀ w ∈ workspace, '?' ∉ w.toList)
    (h : p.document { asked with workspace } = .ok d) :
    ∃ href followed d',
      (d.head.links.filter fun l => l.rel = .selfStyle).map Link.href = [some href]
      ∧ (Parameters.read href >>= Parameters.toRequest) = .ok followed
      ∧ p.document { followed with workspace } = .ok d'
      ∧ p.document { asked with workspace, imageFormat := none } = .ok d'
      ∧ d'.head = d.head
      ∧ (d' = d ↔ asked.imageFormat.getD p.service.imageFormat = p.service.imageFormat) := by
  have hbase : '?' ∉ (p.service.base workspace).toList := Service.notMem_base hurl hworkspace
  have hfollowed := toRequest_selfLink hasked hbox hbase
  obtain ⟨d', h', hhead, hformat⟩ := document_withoutFormat h
  exact ⟨_, asked.linked, d', selfLinks_of_document h hbox, hfollowed, h', h', hhead, hformat⟩

theorem document_followed_lakes : ∃ (p : Publisher) (query href : String) (asked followed : Request)
    (d : Document), (Parameters.read query >>= Parameters.toRequest) = .ok asked
    ∧ asked.output = .preview ∧ asked.language = some "fr"
    ∧ p.document { asked with workspace := some "w" } = .ok d
    ∧ (d.head.links.filter fun l => l.rel = .selfStyle).map Link.href = [some href]
    ∧ (Parameters.read href >>= Parameters.toRequest) = .ok followed
    ∧ p.document { followed with workspace := some "w" } = .ok d := by
  let lakes : Layer := { name := "lakes", workspace := some "w", bounds := Box.world }
  let asked : Request :=
    { Request.plain ["lakes"] .osmTile 10 20 with
      bbox := some ⟨-1.5, 0, 2.25, 8⟩, output := .preview, language := some "fr" }
  let p : Publisher := { catalog := ⟨[lakes]⟩, service := {} }
  have hasked : (Parameters.read ("LAYERS=lakes&CRS=OSMTILE&BBOX=-1.5,0,2.25,8"
      ++ "&WIDTH=10&HEIGHT=20&FORMAT=text/html&LANGUAGE=fr") >>= Parameters.toRequest)
      = .ok asked := by
    rw [Parameters.read_toRequest]
    decide +kernel
  have hresolve : p.resolveLayers { asked with workspace := some "w" }
      = .ok [⟨"lakes", lakes, ""⟩] := by
    decide +kernel
  obtain ⟨d, hd⟩ := exists_document hresolve (by simp) (by simp [RequestedLayer.HasStyle])
  obtain ⟨href, followed, d', hhref, hfollowed, hd', _, _, hformat⟩ :=
    document_followed hasked rfl (by decide) (by decide) hd
  rw [hformat.mpr rfl] at hd'
  exact ⟨p, _, href, asked, followed, d, hasked, rfl, rfl, hd, hhref, hfollowed, hd'⟩

/-- The self link of a request that asks for another image format leads to another document. -/
theorem document_followed_changes : ∃ (p : Publisher) (query href : String)
    (asked followed : Request) (d d' : Document), '?' ∉ p.service.baseUrl.toList
    ∧ (Parameters.read query >>= Parameters.toRequest) = .ok asked ∧ asked.bbox.isSome
    ∧ asked.imageFormat = some "image/jpeg" ∧ p.document asked = .ok d
    ∧ (d.head.links.filter fun l => l.rel = .selfStyle).map Link.href = [some href]
    ∧ (Parameters.read href >>= Parameters.toRequest) = .ok followed ∧ p.document followed = .ok d'
    ∧ d' ≠ d := by
  let lakes : Layer := { name := "lakes", bounds := Box.world }
  let asked : Request :=
    { Request.plain ["lakes"] .osmTile 10 20 with
      bbox := some ⟨-1.5, 0, 2.25, 8⟩, imageFormat := some "image/jpeg" }
  let p : Publisher := { catalog := ⟨[lakes]⟩, service := {} }
  have hasked : (Parameters.read ("LAYERS=lakes&CRS=OSMTILE&BBOX=-1.5,0,2.25,8"
      ++ "&WIDTH=10&HEIGHT=20&FORMAT_OPTIONS=mapmlwmsmimetype:image/jpeg")
        >>= Parameters.toRequest) = .ok asked := by
    rw [Parameters.read_toRequest]
    decide +kernel
  have hresolve : p.resolveLayers asked = .ok [⟨"lakes", lakes, ""⟩] := by decide +kernel
  have hbase : '?' ∉ (p.service.base none).toList := by decide
  obtain ⟨d, hd⟩ := exists_document hresolve (by simp) (by simp [RequestedLayer.HasStyle])
  obtain ⟨d', hd', _, hformat⟩ := document_withoutFormat hd
  have hne : d' ≠ d := fun heq => absurd (hformat.mp heq) (by decide)
  exact ⟨p, _, _, asked, asked.linked, d, d', by decide, hasked, rfl, rfl, hd,
    selfLinks_of_document hd rfl, toRequest_selfLink hasked rfl hbase, hd', hne⟩

end Publisher

end MapMarkup
