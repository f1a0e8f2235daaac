import MapMarkup.Proofs.Extent.Closed
import MapMarkup.Proofs.Template.Servers

/-!
# Extents on servers

An extent is fetched from servers when all layers that it covers are on the same ones
(`SharesServers`); servers that are switched off, have no values or have no pattern count as none.
Then it is the extent that its layers would have without servers on the base of the pattern, behind
the list of shards and the input for it, and otherwise it is the extent that they would have without
servers (`ExtentContext.FollowsServers`).
-/

namespace MapMarkup

/-! ### Common servers -/

/-- The layers are all on these servers, which are in effect. -/
def SharesServers (covered : List RequestedLayer) (s : Sharding) : Prop :=
  ∀ r ∈ covered, r.layer.sharding = some s ∧ s.enabled = true ∧ s.shards ≠ [] ∧ s.pattern ≠ ""

private theorem Layer.activeSharding_eq_some_iff {l : Layer} {s : Sharding} :
    l.activeSharding = some s
      ↔ l.sharding = some s ∧ s.enabled = true ∧ s.shards ≠ [] ∧ s.pattern ≠ "" := by
  rw [activeSharding, Option.filter_eq_some_iff, Sharding.isActive, Bool.and_eq_true,
    Bool.and_eq_true, decide_eq_true_iff, decide_eq_true_iff, and_assoc]

theorem sharesServers_iff {covered : List RequestedLayer} {s : Sharding} :
    SharesServers covered s ↔ ∀ r ∈ covered, r.layer.activeSharding = some s := by
  simp only [SharesServers, Layer.activeSharding_eq_some_iff]

theorem activeSharding_eq_some_iff_sharesServers {r : RequestedLayer} {s : Sharding} :
    r.layer.activeSharding = some s ↔ SharesServers [r] s := by
  rw [sharesServers_iff, List.forall_mem_singleton]

theorem commonSharding_eq_some_iff {layers : List RequestedLayer} (hne : layers ≠ [])
    {s : Sharding} : ExtentContext.commonSharding layers = some s ↔ SharesServers layers s := by
  obtain ⟨first, rest, rfl⟩ := List.exists_cons_of_ne_nil hne
  rw [sharesServers_iff, List.forall_mem_cons, ExtentContext.commonSharding,
    Option.filter_eq_some_iff, List.all_eq_true]
  simp only [decide_eq_true_iff]

/-! ### Layers without servers -/

def RequestedLayer.unsharded (r : RequestedLayer) : RequestedLayer :=
  { r with layer := { r.layer with sharding := none } }

namespace ExtentContext

variable {c : ExtentContext} {layers covered : List RequestedLayer} {e : Extent}

theorem combinedSource_unsharded (c : ExtentContext) (base : String)
    (layers : List RequestedLayer) :
    combinedSource { c with base } (layers.map RequestedLayer.unsharded)
      = (c.combinedSource layers).unsharded base := by
  have hcommon : commonSharding (layers.map RequestedLayer.unsharded) = none := by
    cases layers <;> rfl
  have hmap := combinedSource_map (f := RequestedLayer.unsharded) { c with base } (fun _ => rfl)
    (fun _ => rfl) (fun _ => rfl) layers
  rw [hmap, hcommon]
  rfl

private theorem withZooms_unsharded (t : Tcrs) (layers : List RequestedLayer) :
    withZooms t (layers.map RequestedLayer.unsharded)
      = (withZooms t layers).map (List.map fun p => (p.1.unsharded, p.2)) :=
  withZooms_map (f := RequestedLayer.unsharded) (fun _ => rfl) layers

private theorem map_fst_of_withZooms {t : Tcrs} {zoomed : List (RequestedLayer × ZoomRange)}
    (h : withZooms t layers = .ok zoomed) : zoomed.map Prod.fst = layers := by
  have hforall : List.Forall₂ Eq layers (zoomed.map Prod.fst) := by
    rw [List.forall₂_map_right_iff]
    exact (withZooms_eq_ok_iff.mp h).imp fun _ _ hp => hp.2.symm
  rw [List.forall₂_eq_eq_eq] at hforall
  exact hforall.symm

/-- The extent stands at a position when no layer has servers and the base is another one. -/
def IsPlainAt (c : ExtentContext) (layers : List RequestedLayer) (i : Nat) (base : String)
    (e : Extent) : Prop :=
  ∃ es, compose { c with base } (layers.map RequestedLayer.unsharded) = .ok es ∧ es[i]? = some e

/-- What an extent takes from the servers of the layers that it covers. -/
structure FollowsServers (c : ExtentContext) (layers : List RequestedLayer) (i : Nat)
    (covered : List RequestedLayer) (e : Extent) : Prop where
  datalist : (∃ d ∈ e.datalists, d.id = "servers") ↔ ∃ s, SharesServers covered s
  input : (∃ input ∈ e.inputs, input.name = "s") ↔ ∃ s, SharesServers covered s
  sharded : ∀ s, SharesServers covered s →
    ∃ plain, c.IsPlainAt layers i (Sharding.baseUrl c.base s.pattern) plain
      ∧ e = { plain with
          nodes :=
            [.datalist { id := "servers", options := s.shards.map fun v => (v, v) },
              .input { name := "s", type := .hidden, list := some "servers", shard := true }]
              ++ plain.nodes }
  unsharded : (¬ ∃ s, SharesServers covered s) → c.IsPlainAt layers i c.base e

/-- The extent of a position comes from a source whose servers are the common ones of the layers
that it covers. -/
def HasSource (c : ExtentContext) (layers : List RequestedLayer) (i : Nat)
    (covered : List RequestedLayer) (e : Extent) : Prop :=
  ∃ source : ImageSource, e.nodes = source.nodes ∧ source.base = c.base
    ∧ (∀ s, source.sharding = some s ↔ SharesServers covered s)
    ∧ ∀ base, c.IsPlainAt layers i base { e with nodes := (source.unsharded base).nodes }

theorem hasSource_single {r : RequestedLayer} {z : ZoomRange} {alone : Bool} {i : Nat}
    (h : ∀ base, c.IsPlainAt layers i base (single { c with base } r.unsharded z alone)) :
    c.HasSource layers i [r] (c.single r z alone) :=
  ⟨c.singleSource r z, rfl, rfl, fun _ => activeSharding_eq_some_iff_sharesServers, h⟩

private theorem hasSource_combined {i : Nat} (hne : layers ≠ [])
    (h : ∀ base,
      c.IsPlainAt layers i base (combined { c with base } (layers.map RequestedLayer.unsharded))) :
    c.HasSource layers i layers (c.combined layers) := by
  refine ⟨c.combinedSource layers, rfl, rfl, fun _ => commonSharding_eq_some_iff hne,
    fun base => ?_⟩
  have hplain := h base
  unfold combined at hplain
  rw [combinedSource_unsharded] at hplain
  exact hplain

theorem getElem?_singleton_eq_some_iff {α : Type} {a b : α} {i : Nat} :
    [a][i]? = some b ↔ i = 0 ∧ a = b := by
  rw [List.getElem?_singleton]
  split <;> simp [*]

private theorem hasSource_of_compose {es : List Extent} {i : Nat} (h : c.compose layers = .ok es)
    (hcovered : (c.cover layers)[i]? = some covered) (he : es[i]? = some e) :
    c.HasSource layers i covered e := by
  obtain ⟨zoomed, hzoomed, _⟩ := bind_eq_ok_iff.mp h
  have hplain : withZooms c.tcrs (layers.map RequestedLayer.unsharded)
      = .ok (zoomed.map fun p => (p.1.unsharded, p.2)) := by
    rw [withZooms_unsharded, hzoomed]
    rfl
  have hlength : (layers.map RequestedLayer.unsharded).length = layers.length := List.length_map _
  unfold cover at hcovered
  rcases compose_cases h with ⟨r, _, rfl, _⟩ | ⟨hmany, hflag, rfl⟩ | ⟨hmany, hflag, _⟩
  · rw [if_neg (by simp)] at hcovered
    obtain ⟨rfl, rfl⟩ := getElem?_singleton_eq_some_iff.mp hcovered
    obtain ⟨⟨_, z⟩, _, ⟨hz, rfl⟩, _, _⟩ :=
      List.forall₂_cons_left_iff.mp (withZooms_eq_ok_iff.mp hzoomed)
    rw [compose_one hz] at h
    obtain rfl := Except.ok.inj h
    cases he
    exact hasSource_single fun base => ⟨_, compose_one hz, rfl⟩
  · have hne : layers ≠ [] := List.ne_nil_of_length_pos (by omega)
    rw [if_neg (by simp [hflag])] at hcovered
    obtain ⟨rfl, rfl⟩ := getElem?_singleton_eq_some_iff.mp hcovered
    cases he
    exact hasSource_combined hne fun base =>
      ⟨_, compose_combined hplain (hlength ▸ hmany) hflag, rfl⟩
  · have hfirsts := map_fst_of_withZooms hzoomed
    rw [if_pos ⟨hflag, hmany⟩, ← hfirsts, List.map_map, List.getElem?_map] at hcovered
    rw [compose_each hzoomed hmany hflag] at h
    cases h
    rw [List.getElem?_map] at he
    obtain ⟨p, hp, rfl⟩ := Option.map_eq_some_iff.mp he
    rw [hp] at hcovered
    cases hcovered
    refine hasSource_single fun base =>
      ⟨_, compose_each hplain (hlength ▸ hmany) hflag, ?_⟩
    rw [List.getElem?_map, List.getElem?_map, hp]
    rfl

private theorem HasSource.followsServers {i : Nat} (h : c.HasSource layers i covered e) :
    c.FollowsServers layers i covered e := by
  obtain ⟨source, hnodes, hbase, hshares, hplain⟩ := h
  have hsharding : (∃ s, source.sharding = some s) ↔ ∃ s, SharesServers covered s :=
    exists_congr hshares
  constructor
  · exact (ImageSource.exists_shardList_iff hnodes).trans hsharding
  · exact (ImageSource.exists_shardInput_iff hnodes).trans hsharding
  · intro s hs
    refine ⟨_, hplain (Sharding.baseUrl c.base s.pattern), ?_⟩
    have hsource := ImageSource.nodes_of_sharding ((hshares s).mpr hs)
    rw [← hnodes, hbase] at hsource
    obtain ⟨units, label, checked, hidden, nodes⟩ := e
    cases hsource
    rfl
  · intro hnone
    have hsource : source.sharding = none := by
      rw [Option.eq_none_iff_forall_ne_some]
      exact fun s hs => hnone ⟨s, (hshares s).mp hs⟩
    have he := hplain c.base
    rw [← hbase, ← ImageSource.nodes_of_unsharded hsource, ← hnodes, hbase] at he
    exact he

/-- **What sharding changes.** An extent has the shards and the input for them exactly when the
layers it covers share servers, and all else in it is then as without servers on the base of the
pattern. -/
theorem compose_servers :
    (∀ (c : ExtentContext) (layers : List RequestedLayer) (es : List Extent),
      c.compose layers = .ok es →
      es.length = (c.cover layers).length
      ∧ ∀ (i : Nat) (covered : List RequestedLayer) (e : Extent),
        (c.cover layers)[i]? = some covered → es[i]? = some e →
        c.FollowsServers layers i covered e)
    ∧ (∀ scheme authority path pattern : String, ¬ "://".toList <:+: scheme.toList →
      '/' ∉ authority.toList →
      Sharding.baseUrl (scheme ++ "://" ++ authority ++ "/" ++ path) pattern
        = scheme ++ "://" ++ pattern ++ "/" ++ path)
    ∧ ∀ base p q : String, '/' ∉ p.toList →
      Sharding.baseUrl (Sharding.baseUrl base p) q = Sharding.baseUrl base q := by
  refine ⟨fun c layers es h => ⟨?_, fun i covered e hcovered he =>
    (hasSource_of_compose h hcovered he).followsServers⟩, ?_, ?_⟩
  · exact (forall₂_cover (R := fun _ _ => True) h (fun _ => trivial) fun _ _ _ _ => trivial)
      |>.length_eq.symm
  · exact fun scheme authority path pattern => Sharding.baseUrl_authority path pattern
  · exact fun base p q => Sharding.baseUrl_baseUrl base q

/-- Lakes and roads on the same servers, and lakes with roads whose servers are switched off. -/
theorem compose_servers_lakes : ∃ (c : ExtentContext) (lakes roads off : RequestedLayer)
    (e plain : Extent), c.compose [lakes, roads] = .ok [e] ∧ c.compose [lakes, off] = .ok [plain]
    ∧ (∃ s, SharesServers [lakes, roads] s) ∧ c.FollowsServers [lakes, roads] 0 [lakes, roads] e
    ∧ (∃ d ∈ e.datalists, d.id = "servers") ∧ (∃ input ∈ e.inputs, input.name = "s")
    ∧ off.layer.sharding.isSome ∧ c.IsPlainAt [lakes, off] 0 c.base plain
    ∧ Sharding.baseUrl ("http" ++ "://" ++ "localhost:8080" ++ "/" ++ "geoserver/") "\x7bs\x7d.h"
      = "http" ++ "://" ++ "\x7bs\x7d.h" ++ "/" ++ "geoserver/"
    ∧ Sharding.baseUrl (Sharding.baseUrl c.base "\x7bs\x7d.h") "h"
      = Sharding.baseUrl c.base "h" := by
  let servers : Sharding := ⟨true, ["a", "b"], "\x7bs\x7d.h"⟩
  let lakes : RequestedLayer :=
    ⟨"lakes", { name := "lakes", bounds := Box.world, sharding := some servers }, ""⟩
  let roads : RequestedLayer :=
    ⟨"roads", { name := "roads", bounds := Box.world, sharding := some servers }, ""⟩
  let off : RequestedLayer :=
    ⟨"roads", { name := "roads", bounds := Box.world,
                sharding := some { servers with enabled := false } }, ""⟩
  let c : ExtentContext :=
    { tcrs := .osmTile, multiExtent := false, base := "http://localhost:8080/geoserver/",
      imageFormat := "image/png", language := none }
  have hstyles : ∀ other ∈ [roads, off], ∀ r ∈ [lakes, other], r.HasStyle := by
    simp [RequestedLayer.HasStyle, lakes, roads, off]
  have hshared : SharesServers [lakes, roads] servers := by
    simp [SharesServers, lakes, roads, servers]
  have hnone : ¬ ∃ s, SharesServers [lakes, off] s := by
    rintro ⟨s, hs⟩
    obtain ⟨hsome, henabled, _⟩ := hs off (by simp)
    cases hsome
    cases henabled
  obtain ⟨e, he, _⟩ := compose_as_one (c := c) (by simp) (hstyles roads (by simp)) (.inr rfl)
  obtain ⟨plain, hplain, _⟩ := compose_as_one (c := c) (by simp) (hstyles off (by simp)) (.inr rfl)
  have hfollows := (compose_servers.1 c _ _ he).2 0 [lakes, roads] e rfl rfl
  have hfollows' := (compose_servers.1 c _ _ hplain).2 0 [lakes, off] plain rfl rfl
  exact ⟨c, lakes, roads, off, e, plain, he, hplain, ⟨servers, hshared⟩, hfollows,
    hfollows.datalist.mpr ⟨servers, hshared⟩, hfollows.input.mpr ⟨servers, hshared⟩, rfl,
    hfollows'.unsharded hnone, compose_servers.2.1 _ _ _ _ (by decide) (by decide),
    compose_servers.2.2 _ _ _ (by decide)⟩

end ExtentContext

end MapMarkup
