import MapMarkup.CatalogFile
import MapMarkup.Proofs.Extent.Servers
import MapMarkup.Proofs.GetMap.DocumentUrl

/-!
# The servers of a document

An extent with an input for a shard is meant to be fetched from the servers that a client puts in
for it. Its links all hold the pattern of the servers, so they take a shard if the pattern does, and
if no other text brings braces only then: `Publisher.document_isSharded`. Nothing asks a pattern to
take a shard, and a catalog file may hold one that does not; then an extent lists shards that none
of its links takes (`Publisher.document_shard_unused`).
-/

namespace MapMarkup

namespace ExtentContext

/-- The extent has an input for a shard when the layers that it covers share servers, and its links
hold the pattern of these. -/
structure IsShardedOver (c : ExtentContext) (layers covered : List RequestedLayer) (e : Extent) :
    Prop where
  input : (∃ input ∈ e.inputs, input.name = "s") ↔ ∃ s, SharesServers covered s
  hidden : ∀ input ∈ e.inputs, input.name = "s" → input.type = .hidden
  links_ne_nil : e.links ≠ []
  pattern : ∀ s, SharesServers covered s →
    ∀ l ∈ e.links, ∃ tref ∈ l.tref, s.pattern.toList <:+: tref.toList
  placeholder_iff : ∀ s, SharesServers covered s →
    c.IsPlain (layers.map RequestedLayer.unsharded) →
    ∀ l ∈ e.links, ∃ tref ∈ l.tref,
      HasPlaceholder tref.toList "s" ↔ HasPlaceholder s.pattern.toList "s"

variable {c : ExtentContext} {layers covered : List RequestedLayer} {e : Extent}

theorem isShardedOver_of_source {source : ImageSource} (hnodes : e.nodes = source.nodes)
    (hshares : ∀ s, source.sharding = some s ↔ SharesServers covered s)
    (hplain : c.IsPlain (layers.map RequestedLayer.unsharded) →
      (source.unsharded source.base).IsPlain) : c.IsShardedOver layers covered e := by
  constructor
  · exact (ImageSource.exists_shardInput_iff hnodes).trans (exists_congr hshares)
  · exact fun input => ImageSource.type_of_shardInput hnodes
  · exact ImageSource.links_ne_nil hnodes
  · intro s hs l hl
    obtain ⟨t, ht, htext⟩ := ImageSource.exists_template hnodes hl
    exact ⟨t.text, htext, ImageSource.isInfix_pattern ((hshares s).mpr hs) ht⟩
  · intro s hs hbraceless l hl
    obtain ⟨t, ht, htext⟩ := ImageSource.exists_template hnodes hl
    exact ⟨t.text, htext,
      ImageSource.hasPlaceholder_template_iff ((hshares s).mpr hs) (hplain hbraceless) ht⟩

private theorem isShardedOver_single {r : RequestedLayer} (hr : r ∈ layers) (z : ZoomRange)
    (alone : Bool) :
    c.IsShardedOver layers [r] (c.single r z alone) := by
  have hnodes : (c.single r z alone).nodes = (c.singleSource r z).nodes := rfl
  exact isShardedOver_of_source hnodes (fun _ => activeSharding_eq_some_iff_sharesServers)
    fun hplain => isPlain_singleSource hplain (List.mem_map_of_mem hr) z

private theorem isShardedOver_combined (hne : layers ≠ []) :
    c.IsShardedOver layers layers (c.combined layers) := by
  refine isShardedOver_of_source nodes_combined (fun _ => commonSharding_eq_some_iff hne)
    fun hplain => ?_
  have hcombined := isPlain_combinedSource hplain
  have hsource := combinedSource_unsharded c c.base layers
  rw [hsource] at hcombined
  exact hcombined

theorem compose_isShardedOver {es : List Extent} (h : c.compose layers = .ok es) :
    List.Forall₂ (c.IsShardedOver layers) (c.cover layers) es := by
  refine forall₂_cover h (fun hmany => isShardedOver_combined ?_) fun _ hr =>
    isShardedOver_single hr
  exact List.ne_nil_of_length_pos (by omega)

private theorem exists_mem_of_mem_cover (hne : layers ≠ []) (h : covered ∈ c.cover layers) :
    ∃ r ∈ covered, r ∈ layers := by
  unfold cover at h
  split at h
  · obtain ⟨r, hr, rfl⟩ := List.mem_map.mp h
    exact ⟨r, List.mem_singleton_self r, hr⟩
  · obtain ⟨r, hr⟩ := List.exists_mem_of_ne_nil layers hne
    exact ⟨r, List.mem_singleton.mp h ▸ hr, hr⟩

end ExtentContext

namespace Publisher

variable {p : Publisher} {r : Request} {d : Document}

/-- **A sharded extent takes a shard if its pattern does.** Its links hold the pattern that its
layers share, and without braces in other texts they take a shard exactly when that pattern does. -/
theorem document_isSharded (h : p.document r = .ok d) :
    ((∀ l ∈ p.catalog.entries, ∀ s ∈ l.activeSharding, HasPlaceholder s.pattern.toList "s") →
      ∀ e ∈ d.extents, (∃ input ∈ e.inputs, input.name = "s") →
        ∀ l ∈ e.links, ∃ tref ∈ l.tref, HasPlaceholder tref.toList "s")
    ∧ ∃ layers, p.resolveLayers r = .ok layers
      ∧ List.Forall₂ ((p.extentContext r layers).IsShardedOver layers)
          ((p.extentContext r layers).cover layers) d.extents := by
  obtain ⟨layers, hlayers, hassemble⟩ := bind_eq_ok_iff.mp h
  obtain ⟨es, hes, rfl⟩ := map_eq_ok_iff.mp hassemble
  have hsharded := ExtentContext.compose_isShardedOver hes
  refine ⟨fun hpatterns e he hinput l hl => ?_, layers, hlayers, hsharded⟩
  have hne : layers ≠ [] := by
    rintro rfl
    cases hes
  obtain ⟨covered, hcovered, hover⟩ := exists_of_mem_forall₂ hsharded he
  obtain ⟨s, hs⟩ := hover.input.mp hinput
  obtain ⟨asked, hasked, hmem⟩ := ExtentContext.exists_mem_of_mem_cover hne hcovered
  obtain ⟨tref, htref, hpattern⟩ := hover.pattern s hs l hl
  have hactive := sharesServers_iff.mp hs asked hasked
  exact ⟨tref, htref,
    (hpatterns _ (layer_mem_of_resolveLayers hlayers hmem) s hactive).mono hpattern⟩

theorem document_isSharded_lakes : ∃ (p : Publisher) (r : Request) (d : Document)
    (lakes : RequestedLayer), p.document r = .ok d ∧ p.resolveLayers r = .ok [lakes]
    ∧ (∃ e ∈ d.extents, (∃ input ∈ e.inputs, input.name = "s")
      ∧ ∀ l ∈ e.links, ∃ tref ∈ l.tref, HasPlaceholder tref.toList "s")
    ∧ List.Forall₂ ((p.extentContext r [lakes]).IsShardedOver [lakes]) [[lakes]] d.extents := by
  let servers : Sharding := ⟨true, ["a", "b"], "\x7bs\x7d.h"⟩
  let lakes : RequestedLayer :=
    ⟨"lakes", { name := "lakes", bounds := Box.world, useTiles := true, cached := [.osmTile],
                sharding := some servers }, ""⟩
  let p : Publisher := { catalog := ⟨[lakes.layer]⟩, service := {} }
  let r : Request := Request.plain ["lakes"] .osmTile 10 10
  have hresolve : p.resolveLayers r = .ok [lakes] := by decide +kernel
  have hservers : ∀ l ∈ p.catalog.entries, ∀ s ∈ l.activeSharding,
      HasPlaceholder s.pattern.toList "s" := by
    intro l hl s hs
    rw [List.mem_singleton.mp hl] at hs
    cases hs
    decide
  have hshared : SharesServers [lakes] servers := by simp [SharesServers, lakes, servers]
  obtain ⟨d, hd⟩ := exists_document hresolve (by simp) (by simp [lakes, RequestedLayer.HasStyle])
  obtain ⟨hall, layers, hlayers, hsharded⟩ := document_isSharded hd
  obtain rfl := Except.ok.inj (hlayers.symm.trans hresolve)
  obtain ⟨e, _, he, _, hextents⟩ := List.forall₂_cons_left_iff.mp hsharded
  have hmem : e ∈ d.extents := hextents ▸ List.mem_cons_self
  have hinput := he.input.mpr ⟨servers, hshared⟩
  exact ⟨p, r, d, lakes, hd, hresolve, ⟨e, hmem, hinput, hall hservers e hmem hinput⟩, hsharded⟩

/-- A file may give a layer servers whose pattern takes no shard, so that its extent has an input
that no link takes. -/
theorem document_shard_unused : ∃ (p : Publisher) (text query : String) (r : Request)
    (d : Document), Publisher.ofText text = .ok p
    ∧ (Parameters.read query >>= Parameters.toRequest) = .ok r ∧ p.document r = .ok d
    ∧ ∃ e ∈ d.extents, (∃ input ∈ e.inputs, input.name = "s" ∧ input.type = .hidden)
      ∧ e.links ≠ [] ∧ ∀ l ∈ e.links, ∃ tref ∈ l.tref, ¬ HasPlaceholder tref.toList "s" := by
  let text : String := "layers:\n  - name: lakes\n"
    ++ "    bbox: \x7b west: 0, south: 0, east: 1, north: 1 \x7d\n"
    ++ "    sharding:\n      shards: a, b\n      server_pattern: cdn.example.com\n"
  let servers : Sharding := ⟨true, ["a", "b"], "cdn.example.com"⟩
  let lakes : RequestedLayer :=
    ⟨"lakes", { name := "lakes", bounds := ⟨0, 0, 1, 1⟩, sharding := some servers }, ""⟩
  let f : CatalogFile := { service := {}, layers := [lakes.layer], groups := [] }
  let p : Publisher := { catalog := ⟨[lakes.layer]⟩, service := {} }
  let r : Request := (Request.plain ["lakes"] .wgs84 10 10).withBox ⟨0, 0, 1, 1⟩
  have hf : CatalogFile.ofText text = .ok f := by decide +kernel
  have hfile : Publisher.ofText text = .ok p := by
    unfold Publisher.ofText
    rw [hf]
    rfl
  have hread : (Parameters.read "LAYERS=lakes&CRS=MapML:WGS84&BBOX=0,0,1,1&WIDTH=10&HEIGHT=10"
      >>= Parameters.toRequest) = .ok r := by
    rw [Parameters.read_toRequest]
    decide +kernel
  have hresolve : p.resolveLayers r = .ok [lakes] := by decide +kernel
  have hshared : SharesServers [lakes] servers := by simp [SharesServers, lakes, servers]
  have hplain : (p.extentContext r [lakes]).IsPlain ([lakes].map RequestedLayer.unsharded) :=
    ⟨by decide, by decide, by decide, by decide, by decide, by decide,
      by simp [Layer.activeSharding, RequestedLayer.unsharded]⟩
  obtain ⟨d, hd⟩ := exists_document hresolve (by simp) (by simp [lakes, RequestedLayer.HasStyle])
  have hdocument := hd
  rw [document_eq hresolve] at hdocument
  obtain ⟨es, hes, rfl⟩ := map_eq_ok_iff.mp hdocument
  obtain ⟨e, _, he, _, rfl⟩ :=
    List.forall₂_cons_left_iff.mp (ExtentContext.compose_isShardedOver hes)
  obtain ⟨input, hinput, hname⟩ := he.input.mpr ⟨servers, hshared⟩
  refine ⟨p, _, _, r, _, hfile, hread, hd, e, List.mem_cons_self,
    ⟨input, hinput, hname, he.hidden input hinput hname⟩, he.links_ne_nil, fun l hl => ?_⟩
  obtain ⟨tref, htref, hiff⟩ := he.placeholder_iff servers hshared hplain l hl
  exact ⟨tref, htref, hiff.not.mpr (by decide)⟩

end Publisher

end MapMarkup
