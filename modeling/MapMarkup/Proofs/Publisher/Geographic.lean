import MapMarkup.Proofs.Box.Axes
import MapMarkup.Proofs.GetMap.Checked
import MapMarkup.Proofs.TiledCrs
import MapMarkup.Publisher

/-!
# Geographic requests

The same map in degrees can be asked for in four ways: with the latitude first, as version 1.3 wants
it for EPSG:4326; with the longitude first, as earlier versions want it; and in any version with a
code whose coordinates always have the longitude first. `AsksGeographic` says which parameters those
are. Any two of them make the same request, each in its own version
(`AsksGeographic.toRequest_congr`), so they are accepted together, and no document tells them apart
(`Publisher.document_geographic`).
-/

namespace MapMarkup

/-! ### Ways to ask -/

namespace Parameters

/-- Parameters with a code in the parameter that the version prefers, and anything in the other. -/
def withCode (p : Parameters) (version : Option String) (code : String) (other : Option String) :
    Parameters :=
  if "1.1".toList.isPrefixOf (version.getD "1.3.0").toList then
    { p with version, srs := some code, crs := other }
  else { p with version, crs := some code, srs := other }

def withCorners (p : Parameters) (corners : List String) : Parameters :=
  { p with bbox := some (Text.join ',' corners) }

end Parameters

/-- The parameters ask for the box from the longitude `a` and the latitude `b` to the longitude `c`
and the latitude `d`, and otherwise for what `rest` asks for. -/
inductive AsksGeographic (rest : Parameters) (a b c d : String) : Parameters → Prop
  /-- EPSG:4326 in version 1.3. -/
  | latitudeFirst {version : Option String} {code : String} (other : Option String)
      (hversion : "1.3".toList.isPrefixOf (version.getD "1.3.0").toList = true)
      (hcode : Crs.ofText code = .ok .epsg4326) :
      AsksGeographic rest a b c d
        { rest.withCorners [b, a, d, c] with version, crs := some code, srs := other }
  /-- EPSG:4326 in version 1.1. -/
  | longitudeFirst {version code : String} (other : Option String)
      (hversion : "1.1".toList.isPrefixOf version.toList = true)
      (hcode : Crs.ofText code = .ok .epsg4326) :
      AsksGeographic rest a b c d
        { rest.withCorners [a, b, c, d] with
          version := some version, srs := some code, crs := other }
  /-- CRS:84 in any version. -/
  | crs84 (version : Option String) {code : String} (other : Option String)
      (hcode : Crs.ofText code = .ok .crs84) :
      AsksGeographic rest a b c d ((rest.withCorners [a, b, c, d]).withCode version code other)
  /-- The tiled system in any version. -/
  | tiled (version : Option String) {code : String} (other : Option String)
      (hcode : Tcrs.ofText? code = some .wgs84) :
      AsksGeographic rest a b c d ((rest.withCorners [a, b, c, d]).withCode version code other)

/-! ### What they have in common -/

namespace Parameters

variable (p : Parameters) (version : Option String) (code : String) (other : Option String)

theorem withCode_eq : ∃ crs srs, p.withCode version code other = { p with version, crs, srs } := by
  unfold withCode
  split
  · exact ⟨other, some code, rfl⟩
  · exact ⟨some code, other, rfl⟩

theorem version_withCode : (p.withCode version code other).version = version := by
  obtain ⟨_, _, h⟩ := p.withCode_eq version code other
  rw [h]

theorem bbox_withCode : (p.withCode version code other).bbox = p.bbox := by
  obtain ⟨_, _, h⟩ := p.withCode_eq version code other
  rw [h]

theorem crsIn_withCode :
    (p.withCode version code other).crsIn (version.getD "1.3.0") = some code := by
  unfold crsIn withCode
  split <;> simp

end Parameters

theorem not_isPrefixOf_of_version {version : String}
    (h : "1.3".toList.isPrefixOf version.toList = true) :
    ¬ "1.1".toList.isPrefixOf version.toList = true := by
  intro hother
  rw [List.isPrefixOf_iff_prefix] at h hother
  exact absurd (List.prefix_of_prefix_length_le h hother (by decide)) (by decide)

/-- A code that stands for the tiled system reads a box as its axis order says. -/
private theorem Parameters.reads_of_code {p : Parameters} {version code text : String}
    {order : AxisOrder} (hcode : p.crsIn version = some code)
    (hresolve : resolveCrs code version = .ok (.wgs84, order)) (hbox : p.bbox = some text)
    {tcrs : Tcrs} {bbox : Option Box} :
    (∃ order, p.readCrs version = .ok (tcrs, order) ∧ p.readBox order = .ok bbox)
      ↔ tcrs = .wgs84 ∧ ∃ box, Box.ofParam text order = .ok box ∧ bbox = some box := by
  have hread : p.readCrs version = .ok (.wgs84, order) :=
    readCrs_eq_ok_iff.mpr ⟨code, hcode, hresolve⟩
  simp only [hread, readBox_eq_ok_iff, hbox, Except.ok.injEq, Prod.mk.injEq]
  simp [eq_comm]

namespace AsksGeographic

variable {rest p q : Parameters} {a b c d : String}

/-- The tiled system and the box that are asked for do not depend on the way of asking. -/
theorem reads (h : AsksGeographic rest a b c d p) {tcrs : Tcrs} {bbox : Option Box} :
    (∃ order, p.readCrs (p.version.getD "1.3.0") = .ok (tcrs, order) ∧ p.readBox order = .ok bbox)
      ↔ tcrs = .wgs84
        ∧ ∃ box, Box.ofParam (Text.join ',' [a, b, c, d]) .xy = .ok box ∧ bbox = some box := by
  cases h with
  | @latitudeFirst version code other hversion hcode =>
    have hresolve : resolveCrs code (version.getD "1.3.0") = .ok (.wgs84, .latLon) := by
      refine resolveCrs_eq_ok_iff.mpr (.inr ⟨.epsg4326, hcode, rfl, ?_⟩)
      exact (Crs.axisOrderIn_eq_latLon_iff.mpr ⟨rfl, hversion⟩).symm
    have hcrs : Parameters.crsIn { rest.withCorners [b, a, d, c] with
        version, crs := some code, srs := other } (version.getD "1.3.0") = some code := by
      rw [Parameters.crsIn, if_neg (not_isPrefixOf_of_version hversion), Option.some_or]
    rw [Parameters.reads_of_code hcrs hresolve rfl]
    simp only [Box.ofParam_swap]
  | @longitudeFirst version code other hversion hcode =>
    have hresolve : resolveCrs code version = .ok (.wgs84, .xy) := by
      refine resolveCrs_eq_ok_iff.mpr (.inr ⟨.epsg4326, hcode, rfl, ?_⟩)
      rw [Crs.axisOrderIn, if_neg fun h => not_isPrefixOf_of_version h hversion]
    have hcrs : Parameters.crsIn { rest.withCorners [a, b, c, d] with
        version := some version, srs := some code, crs := other } version = some code := by
      rw [Parameters.crsIn, if_pos hversion, Option.some_or]
    exact Parameters.reads_of_code hcrs hresolve rfl
  | @crs84 version code other hcode =>
    have hresolve : resolveCrs code (version.getD "1.3.0") = .ok (.wgs84, .xy) := by
      refine resolveCrs_eq_ok_iff.mpr (.inr ⟨.crs84, hcode, rfl, ?_⟩)
      unfold Crs.axisOrderIn
      split <;> rfl
    rw [Parameters.version_withCode]
    exact Parameters.reads_of_code (Parameters.crsIn_withCode ..) hresolve
      (Parameters.bbox_withCode ..)
  | @tiled version code other hcode =>
    have hresolve : resolveCrs code (version.getD "1.3.0") = .ok (.wgs84, .xy) :=
      resolveCrs_eq_ok_iff.mpr (.inl ⟨hcode, rfl⟩)
    rw [Parameters.version_withCode]
    exact Parameters.reads_of_code (Parameters.crsIn_withCode ..) hresolve
      (Parameters.bbox_withCode ..)

theorem eq_rest (h : AsksGeographic rest a b c d p) :
    ∃ version crs srs bbox, p = { rest with version, crs, srs, bbox } := by
  cases h with
  | latitudeFirst | longitudeFirst => exact ⟨_, _, _, _, rfl⟩
  | @crs84 version code other | @tiled version code other =>
    obtain ⟨crs, srs, heq⟩ := (rest.withCorners [a, b, c, d]).withCode_eq version code other
    exact ⟨_, _, _, _, heq⟩

/-- Two ways of asking make the same request, each in its own version. -/
theorem toRequest_congr (hp : AsksGeographic rest a b c d p) (hq : AsksGeographic rest a b c d q)
    {r : Request} (hversion : r.version = p.version.getD "1.3.0") :
    p.toRequest = .ok r
      ↔ q.toRequest = .ok { r with version := q.version.getD "1.3.0" } := by
  have hreads : (∃ order, p.readCrs r.version = .ok (r.tcrs, order) ∧ p.readBox order = .ok r.bbox)
      ↔ ∃ order, q.readCrs (q.version.getD "1.3.0") = .ok (r.tcrs, order)
        ∧ q.readBox order = .ok r.bbox := by
    rw [hversion, hp.reads, hq.reads]
  rw [Parameters.toRequest_eq_ok_iff, Parameters.toRequest_eq_ok_iff]
  obtain ⟨_, _, _, _, rfl⟩ := hp.eq_rest
  obtain ⟨_, _, _, _, rfl⟩ := hq.eq_rest
  constructor
  · rintro ⟨hservice, hrequest, _, hlayers, hbox, hothers⟩
    exact ⟨hservice, hrequest, rfl, hlayers, hreads.mp hbox, hothers⟩
  · rintro ⟨hservice, hrequest, _, hlayers, hbox, hothers⟩
    exact ⟨hservice, hrequest, hversion, hlayers, hreads.mpr hbox, hothers⟩

end AsksGeographic

/-! ### Documents -/

/-- The box of a request has the longitude or easting first, unless it is in EPSG:4326 and version
1.3. -/
theorem Parameters.ofParam_of_toRequest {p : Parameters} {r : Request} {code text : String}
    {box : Box} (h : p.toRequest = .ok r) (hcode : p.crsIn r.version = some code)
    (htext : p.bbox = some text) (hbox : r.bbox = some box)
    (hother : ¬ (Crs.ofText code = .ok .epsg4326
      ∧ "1.3".toList.isPrefixOf r.version.toList = true)) : Box.ofParam text .xy = .ok box := by
  obtain ⟨_, _, _, _, ⟨order, hcrs, hread⟩, _⟩ := toRequest_eq_ok_iff.mp h
  obtain ⟨code', hcode', hresolve⟩ := readCrs_eq_ok_iff.mp hcrs
  rw [hcode, Option.some.injEq] at hcode'
  subst hcode'
  have horder : order = .xy := by
    cases order with
    | xy => rfl
    | latLon => exact absurd ((resolveCrs_latLon_iff hresolve).mp rfl) hother
  rcases readBox_eq_ok_iff.mp hread with ⟨hnone, _⟩ | ⟨text', box', htext', hparam, hbox'⟩
  · rw [htext] at hnone
    cases hnone
  · rw [htext, Option.some.injEq] at htext'
    rw [hbox, Option.some.injEq] at hbox'
    rw [htext', hbox', ← horder]
    exact hparam

namespace Publisher

/-- A document does not depend on the version it is asked for in. -/
theorem document_withVersion (p : Publisher) (r : Request) (version : String) :
    p.document { r with version } = p.document r := by
  rfl

/-- **All ways to ask for a geographic map are the same.** They are accepted or refused together,
and make the same request and the same document but for their versions. -/
theorem document_geographic :
    (∀ rest a b c d p q, AsksGeographic rest a b c d p → AsksGeographic rest a b c d q →
      ((∃ r, p.toRequest = .ok r) ↔ ∃ r, q.toRequest = .ok r)
      ∧ ∀ r r', p.toRequest = .ok r → q.toRequest = .ok r' →
        r' = { r with version := r'.version }
        ∧ ∀ (publisher : Publisher) (workspace : Option String),
          publisher.document { r with workspace } = publisher.document { r' with workspace })
    ∧ (∀ code version t order, resolveCrs code version = .ok (t, order) →
      (order = .latLon ↔ Crs.ofText code = .ok .epsg4326
        ∧ "1.3".toList.isPrefixOf version.toList = true))
    ∧ ∀ (p : Parameters) (r : Request) code text box, p.toRequest = .ok r →
      p.crsIn r.version = some code → p.bbox = some text → r.bbox = some box →
      ¬ (Crs.ofText code = .ok .epsg4326 ∧ "1.3".toList.isPrefixOf r.version.toList = true) →
      Box.ofParam text .xy = .ok box := by
  refine ⟨fun rest a b c d p q hp hq => ?_, fun _ _ _ _ h => resolveCrs_latLon_iff h,
    fun _ _ _ _ _ h hcode htext hbox hother =>
      Parameters.ofParam_of_toRequest h hcode htext hbox hother⟩
  have hsame {p q : Parameters} {r : Request} (hp : AsksGeographic rest a b c d p)
      (hq : AsksGeographic rest a b c d q) (h : p.toRequest = .ok r) :
      q.toRequest = .ok { r with version := q.version.getD "1.3.0" } :=
    (hp.toRequest_congr hq (Parameters.toRequest_eq_ok_iff.mp h).2.2.1).mp h
  refine ⟨⟨fun ⟨r, h⟩ => ⟨_, hsame hp hq h⟩, fun ⟨r, h⟩ => ⟨_, hsame hq hp h⟩⟩, ?_⟩
  intro r r' h h'
  have heq : r' = { r with version := q.version.getD "1.3.0" } :=
    Except.ok.inj (h'.symm.trans (hsame hp hq h))
  subst heq
  refine ⟨rfl, fun publisher workspace => ?_⟩
  exact (publisher.document_withVersion { r with workspace } _).symm

theorem document_geographic_lakes : ∃ (p q : Parameters) (r r' : Request) (publisher : Publisher),
    p.crs = some "urn:ogc:def:crs:EPSG::4326" ∧ p.bbox = some "-45,-90,45,90"
    ∧ q.srs = some " crs:84" ∧ q.bbox = some "-90,-45,90,45"
    ∧ p.toRequest = .ok r ∧ q.toRequest = .ok r' ∧ r.version = "1.3.0" ∧ r'.version = "1.1.1"
    ∧ r' = { r with version := "1.1.1" } ∧ (publisher.document r).isOk = true
    ∧ ∀ workspace : Option String,
      publisher.document { r with workspace } = publisher.document { r' with workspace } := by
  let rest : Parameters := { layers := some "Lakes", width := some "768", height := some "384" }
  let p : Parameters := { rest.withCorners ["-45", "-90", "45", "90"] with
    version := some "1.3.0", crs := some "urn:ogc:def:crs:EPSG::4326", srs := none }
  let q : Parameters :=
    (rest.withCorners ["-90", "-45", "90", "45"]).withCode (some "1.1.1") " crs:84" none
  let publisher : Publisher :=
    { catalog := ⟨[{ name := "Lakes", bounds := Box.world }]⟩, service := {} }
  have hp : AsksGeographic rest "-90" "-45" "90" "45" p :=
    .latitudeFirst none (by decide) (by decide +kernel)
  have hq : AsksGeographic rest "-90" "-45" "90" "45" q := .crs84 _ none (by decide +kernel)
  obtain ⟨htogether, hequal⟩ := document_geographic.1 rest _ _ _ _ p q hp hq
  have hread : (p.toRequest.map fun r => (publisher.document r).isOk) = .ok true := by
    decide +kernel
  obtain ⟨r, hr, hok⟩ := map_eq_ok_iff.mp hread
  obtain ⟨r', hr'⟩ := htogether.mp ⟨r, hr⟩
  obtain ⟨heq, hdocument⟩ := hequal r r' hr hr'
  have hversion : r.version = "1.3.0" := (Parameters.toRequest_eq_ok_iff.mp hr).2.2.1
  have hversion' : r'.version = "1.1.1" := (Parameters.toRequest_eq_ok_iff.mp hr').2.2.1
  rw [hversion'] at heq
  exact ⟨p, q, r, r', publisher, rfl, by decide, rfl, by decide, hr, hr', hversion, hversion', heq,
    hok, hdocument publisher⟩

end Publisher

end MapMarkup
