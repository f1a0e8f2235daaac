import MapMarkup.Proofs.Outcome
import MapMarkup.Proofs.Projection.Wrapping
import MapMarkup.Reprojection

/-!
# Transforming a point

A point is taken into another reference system in two steps, and some of these wrap an angle
(`Crs.Wraps`). The transform comes to an end, with an image or with the answer that there is none,
unless one of these angles is wrapped for ever (`transformPoint_returns_iff`). Only longitudes in
degrees or in Web Mercator that are brought to the Canada Atlas can be as large as that, as long as
the arctangent behind the other angles stays in bounds.
-/

namespace MapMarkup

open Decimal

/-! ### Steps that wrap an angle -/

namespace PolarStereographic

/-- The angle from the prime meridian, in radians, under which the pole sees a point. -/
def bearing (s : PolarStereographic) (p : Point) : Float :=
  let dx := p.x - s.falseEasting
  let dy := p.y - s.falseNorthing
  let meridian := radians s.centralMeridian
  if (dx * dx + dy * dy).sqrt == 0 then meridian else meridian + Float.atan2 dx (-dy)

variable {s : PolarStereographic} {p q : Point}

theorem inverse_eq_endless_iff :
    s.inverse p = .error .endless ↔ wrapTurns 180 (degrees (s.bearing p)) = .error .endless := by
  unfold inverse
  dsimp only
  rw [bind_eq_error_iff]
  refine or_iff_left ?_
  rintro ⟨longitude, _, h⟩
  cases h

private theorem wrapTurns_of_inverse (h : s.inverse p = .ok q) :
    wrapTurns 180 (degrees (s.bearing p)) = .ok q.x := by
  obtain ⟨longitude, hwrap, h⟩ := bind_eq_ok_iff.mp h
  cases h
  exact hwrap

theorem forward_ne_endless : s.forward p ≠ .error .endless := by
  unfold forward
  dsimp only
  split <;> exact fun h => by cases h

end PolarStereographic

namespace Lambert

/-- The angle from the prime meridian, in radians, under which the tip of the cone sees a point. -/
def bearing (l : Lambert) (p : Point) : Float :=
  let dx := p.x - l.falseEasting
  let dy := l.originDistance - (p.y - l.falseNorthing)
  let theta := if l.cone < 0 then Float.atan2 (-dx) (-dy) else Float.atan2 dx dy
  theta / l.cone + radians l.centralMeridian

variable {l : Lambert} {p q : Point}

theorem inverse_eq_endless_iff :
    l.inverse p = .error .endless ↔ wrapTurns 180 (degrees (l.bearing p)) = .error .endless := by
  unfold inverse bearing
  by_cases hcone : l.cone < 0 <;> simp only [hcone, ↓reduceIte]
  all_goals
    rw [bind_eq_error_iff]
    refine or_iff_left ?_
    rintro ⟨longitude, _, h⟩
    split at h <;> cases h

theorem forward_eq_endless_iff : l.forward p = .error .endless
    ↔ wrapTurns pi (radians p.x - radians l.centralMeridian) = .error .endless := by
  unfold forward
  rw [bind_eq_error_iff]
  refine or_iff_left ?_
  rintro ⟨turn, _, h⟩
  dsimp only at h
  split at h <;> cases h

end Lambert

theorem Mercator.forward_ne_endless {m : Mercator} {p : Point} : m.forward p ≠ .error .endless := by
  unfold forward
  split <;> exact fun h => by cases h

namespace Crs

def bearing? (c : Crs) (p : Point) : Option Float :=
  match c with
  | .epsg5936 => some (PolarStereographic.alaska.bearing p)
  | .epsg3978 => some (Lambert.canadaAtlas.bearing p)
  | _ => none

/-- Transforming a point wraps the angle, by half turns and with the limit beyond which a turn is
lost in it. -/
inductive Wraps (source : Crs) (p : Point) (target : Crs) : Float → Float → Float → Prop
  | inverse {bearing : Float} (hspace : source.sameSpace target = false)
      (hbearing : source.bearing? p = some bearing) :
      Wraps source p target 180 (Float.ofNat (2 ^ 62)) (degrees bearing)
  | forward {q : Point} (htarget : target = .epsg3978) (hbearing : source.bearing? p = none)
      (hq : source.projection.inverse p = .ok q) :
      Wraps source p target pi (Float.ofNat (2 ^ 56)) (radians q.x - radians (-95))

private theorem Wraps.halfTurn {p : Point} {source target : Crs} {half limit angle : Float}
    (h : source.Wraps p target half limit angle) : ∃ k, HalfTurn half limit k := by
  cases h with
  | inverse => exact ⟨9, halfTurn_degrees⟩
  | forward => exact ⟨3, halfTurn_pi⟩

end Crs

def Returns (p : Point) (source target : Crs) : Prop :=
  (∃ q, transformPoint p source target = .ok q)
    ∨ transformPoint p source target = .error (.pointOutOfDomain p source target)

private theorem returns_of_sameSpace {p : Point} {source target : Crs}
    (hspace : source.sameSpace target = true) : Returns p source target := by
  refine .inl ⟨p, ?_⟩
  unfold transformPoint
  rw [if_pos hspace]

theorem not_returns_iff {p : Point} {source target : Crs}
    (hspace : source.sameSpace target = false) : ¬ Returns p source target
      ↔ source.projection.inverse p = .error .endless
        ∨ ∃ q, source.projection.inverse p = .ok q
          ∧ target.projection.forward q = .error .endless := by
  rw [← bind_eq_error_iff]
  unfold Returns transformPoint
  rw [if_neg (by rw [hspace]; decide)]
  cases source.projection.inverse p >>= target.projection.forward with
  | error fault => cases fault <;> simp
  | ok q =>
    dsimp only
    split <;> simp

/-! ### Angles within bounds -/

/-- A product with a positive factor that has all 53 bits is bounded as its factors are, up to half
a unit. -/
theorem abs_value_mul_le {x c : Float} {a b : ℚ} (hx : x.isFinite = true) (ha : |value x| ≤ a)
    (hc : 0 < c) (hfinite : c.isFinite = true) (hfull : 2 ^ 52 ≤ (Binary.ofFloat c).mantissa)
    (hb : value c ≤ b) {k : ℤ} (hk : -1074 ≤ k) (hk' : k < 971) (hsmall : a * b < 2 ^ (k + 53)) :
    (x * c).isFinite = true ∧ |value (x * c)| ≤ a * b + 2 ^ (k - 1) := by
  obtain ⟨m, e, hm, rfl⟩ := exists_signed_of_pos hc hfinite
  rw [binary_ofFloat_signed] at hfull
  have hpos : 0 ≤ value (signed .positive hm) := by
    rw [value_signed]
    exact hm.magnitude_pos.le
  refine (rounds_mul hx hm hfull).abs_value_le ?_ hk hk' hsmall
  rw [abs_mul, abs_of_nonneg hpos]
  exact mul_le_mul ha hb hpos ((abs_nonneg _).trans ha)

private theorem within_radians_sub {x : Float} (h : Within 180 x) :
    Within (Float.ofNat (2 ^ 56)) (radians x - radians (-95)) := by
  rcases h.isFinite_or_eq (by decide) with hx | rfl
  · have hbound : |value x| ≤ 180 := by
      have hvalue : value 180 = 180 := by decide +kernel
      rwa [within_iff_abs_le (by decide) hx, hvalue] at h
    have hfactor : value (pi / 180) ≤ 1 / 50 := by decide +kernel
    obtain ⟨hradians, hlongitude⟩ : (radians x).isFinite = true
        ∧ |value (radians x)| ≤ 180 * (1 / 50) + 2 ^ (0 - 1 : ℤ) :=
      abs_value_mul_le hx hbound (by decide +kernel) (by decide +kernel) (by decide +kernel) hfactor
        (by norm_num) (by norm_num) (by norm_num)
    obtain ⟨hfinite, hmeridian⟩ : (radians (-95)).isFinite = true
        ∧ |value (radians (-95))| ≤ 2 := by decide +kernel
    have hexact : |value (radians x) - value (radians (-95))| ≤ 7 := by
      refine (abs_sub _ _).trans ((add_le_add hlongitude hmeridian).trans ?_)
      norm_num
    obtain ⟨hdifference, hangle⟩ := (rounds_sub hradians hfinite).abs_value_le (k := 0) hexact
      (by norm_num) (by norm_num) (by norm_num)
    have hlimit : value (Float.ofNat (2 ^ 56)) = 2 ^ 56 := by decide +kernel
    rw [within_iff_abs_le (by decide +kernel) hdifference, hlimit]
    exact hangle.trans (by norm_num)
  · exact within_notANumber

private theorem within_degrees {x : Float} (h : Within (Float.ofNat (2 ^ 56)) x) :
    Within (Float.ofNat (2 ^ 62)) (degrees x) := by
  rcases h.isFinite_or_eq (by decide +kernel) with hx | rfl
  · have hbound : |value x| ≤ 2 ^ 56 := by
      have hvalue : value (Float.ofNat (2 ^ 56)) = 2 ^ 56 := by decide +kernel
      rwa [within_iff_abs_le (by decide +kernel) hx, hvalue] at h
    have hfactor : value (180 / pi) ≤ 60 := by decide +kernel
    obtain ⟨hfinite, hangle⟩ : (degrees x).isFinite = true
        ∧ |value (degrees x)| ≤ 2 ^ 56 * 60 + 2 ^ (9 - 1 : ℤ) :=
      abs_value_mul_le hx hbound (by decide +kernel) (by decide +kernel) (by decide +kernel) hfactor
        (by norm_num) (by norm_num) (by norm_num)
    have hlimit : value (Float.ofNat (2 ^ 62)) = 2 ^ 62 := by decide +kernel
    rw [within_iff_abs_le (by decide +kernel) hfinite, hlimit]
    exact hangle.trans (by norm_num)
  · exact within_notANumber

/-! ### Which transforms return -/

section

variable {p q : Point} {source target : Crs}

theorem inverse_eq_endless_iff {bearing : Float} (hbearing : source.bearing? p = some bearing) :
    source.projection.inverse p = .error .endless ↔ WrapsForever 180 (degrees bearing) := by
  rw [← halfTurn_degrees.wrapTurns_eq_error_iff]
  cases source with
  | epsg5936 =>
    obtain rfl : PolarStereographic.alaska.bearing p = bearing := Option.some.inj hbearing
    exact PolarStereographic.inverse_eq_endless_iff
  | epsg3978 =>
    obtain rfl : Lambert.canadaAtlas.bearing p = bearing := Option.some.inj hbearing
    change Lambert.canadaAtlas.inverse p = _ ↔ _
    exact Lambert.inverse_eq_endless_iff
  | crs84 | epsg4326 | epsg3857 => cases hbearing

private theorem exists_inverse (hbearing : source.bearing? p = none) :
    ∃ q, source.projection.inverse p = .ok q := by
  cases source with
  | crs84 | epsg4326 | epsg3857 => exact ⟨_, rfl⟩
  | epsg5936 | epsg3978 => cases hbearing

theorem forward_eq_endless_iff : target.projection.forward q = .error .endless
    ↔ target = .epsg3978 ∧ WrapsForever pi (radians q.x - radians (-95)) := by
  rw [← halfTurn_pi.wrapTurns_eq_error_iff]
  cases target with
  | epsg3978 =>
    rw [eq_self, true_and]
    exact Lambert.forward_eq_endless_iff
  | epsg5936 => exact iff_of_false PolarStereographic.forward_ne_endless (by simp)
  | epsg3857 => exact iff_of_false Mercator.forward_ne_endless (by simp)
  | crs84 | epsg4326 => exact iff_of_false (fun h => by cases h) (by simp)

private theorem not_wrapsForever_of_inverse (hspace : source.sameSpace .epsg3978 = false)
    {bearing : Float} (hbearing : source.bearing? p = some bearing)
    (hq : source.projection.inverse p = .ok q) :
    ¬ WrapsForever pi (radians q.x - radians (-95)) := by
  cases source with
  | epsg5936 =>
    have hwithin : Within 180 q.x :=
      halfTurn_degrees.within_of_wrapTurns (PolarStereographic.wrapTurns_of_inverse hq)
    exact halfTurn_pi.not_wrapsForever_iff.mpr (within_radians_sub hwithin)
  | epsg3978 => cases hspace
  | crs84 | epsg4326 | epsg3857 => cases hbearing

theorem not_returns_iff_wraps : ¬ Returns p source target
    ↔ ∃ half limit angle, source.Wraps p target half limit angle ∧ WrapsForever half angle := by
  constructor
  · intro hnot
    have hspace : source.sameSpace target = false := by
      by_contra hspace
      exact hnot (returns_of_sameSpace (Bool.not_eq_false _ ▸ hspace))
    rcases (not_returns_iff hspace).mp hnot with hinverse | ⟨q, hq, hforward⟩
    · cases hbearing : source.bearing? p with
      | some bearing =>
        exact ⟨_, _, _, .inverse hspace hbearing, (inverse_eq_endless_iff hbearing).mp hinverse⟩
      | none =>
        obtain ⟨q, hq⟩ := exists_inverse hbearing
        rw [hq] at hinverse
        cases hinverse
    · obtain ⟨rfl, hforever⟩ := forward_eq_endless_iff.mp hforward
      cases hbearing : source.bearing? p with
      | some bearing => exact absurd hforever (not_wrapsForever_of_inverse hspace hbearing hq)
      | none => exact ⟨_, _, _, .forward rfl hbearing hq, hforever⟩
  · rintro ⟨half, limit, angle, hwraps, hforever⟩
    cases hwraps with
    | inverse hspace hbearing =>
      exact (not_returns_iff hspace).mpr (.inl ((inverse_eq_endless_iff hbearing).mpr hforever))
    | @forward q htarget hbearing hq =>
      have hspace : source.sameSpace target = false := by
        subst htarget
        cases source with
        | epsg3978 => cases hbearing
        | crs84 | epsg4326 | epsg3857 | epsg5936 => rfl
      exact (not_returns_iff hspace).mpr
        (.inr ⟨q, hq, forward_eq_endless_iff.mpr ⟨htarget, hforever⟩⟩)

end

/-- **A point is transformed unless an angle is wrapped for ever.** Transforming it ends, with an
image or without one, exactly when none of the angles that it wraps is so large that turns are lost
in it. -/
theorem transformPoint_returns_iff (p : Point) (source target : Crs) :
    (Returns p source target ↔ ∀ half limit angle,
      source.Wraps p target half limit angle → ¬ WrapsForever half angle)
    ∧ (∀ half limit angle, source.Wraps p target half limit angle →
      (WrapsForever half angle ↔ limit < angle ∨ angle < -limit))
    ∧ ((∀ bearing ∈ source.bearing? p, Within (Float.ofNat (2 ^ 56)) bearing) →
      ¬ Returns p source target → target = .epsg3978 ∧ source.bearing? p = none) := by
  refine ⟨?_, fun half limit angle hwraps => ?_, fun hbearings hnot => ?_⟩
  · rw [← not_iff_not, not_returns_iff_wraps]
    push Not
    rfl
  · obtain ⟨k, ht⟩ := hwraps.halfTurn
    exact ht.wrapsForever_iff
  · obtain ⟨half, limit, angle, hwraps, hforever⟩ := not_returns_iff_wraps.mp hnot
    cases hwraps with
    | @inverse bearing _ hbearing =>
      have hwithin := within_degrees (hbearings bearing hbearing)
      exact absurd hforever (halfTurn_degrees.not_wrapsForever_iff.mpr hwithin)
    | forward htarget hbearing _ => exact ⟨htarget, hbearing⟩

theorem not_returns_of_far {x y : Float} (hfar : Float.ofNat (2 ^ 56) < radians x - radians (-95)) :
    ¬ Returns ⟨x, y⟩ .crs84 .epsg3978 ∧ WrapsForever pi (radians x - radians (-95)) := by
  have hforever := halfTurn_pi.wrapsForever_iff.mpr (.inl hfar)
  have hwraps : Crs.crs84.Wraps ⟨x, y⟩ .epsg3978 pi (Float.ofNat (2 ^ 56))
      (radians x - radians (-95)) := .forward (q := ⟨x, y⟩) rfl rfl rfl
  exact ⟨not_returns_iff_wraps.mpr ⟨_, _, _, hwraps, hforever⟩, hforever⟩

/-- An infinite longitude is wrapped for ever on its way to the Canada Atlas, and so is a finite one
of `10 ^ 20` degrees. -/
theorem not_returns_farLongitude :
    (¬ Returns ⟨1 / 0, 0⟩ .crs84 .epsg3978 ∧ WrapsForever pi (radians (1 / 0) - radians (-95)))
      ∧ ¬ Returns ⟨1e20, 0⟩ .crs84 .epsg3978 ∧ WrapsForever pi (radians 1e20 - radians (-95)) :=
  ⟨not_returns_of_far (by decide +kernel), not_returns_of_far (by decide +kernel)⟩

end MapMarkup
