import MapMarkup.Projection
import MapMarkup.Proofs.Decimal.Sum

/-!
# Wrapping angles

An angle is brought into one turn by a loop that takes whole turns away and a loop that adds them,
one for each side of zero (`nearer`). A turn of `k` binary digits before its point changes every
float up to `2 ^ (k + 53)`, because it is more than half of the unit there, and is lost in every
greater one (`HalfTurn`). So a loop ends within this limit, and goes on for ever beyond it
(`HalfTurn.neverEnds_iff`). Wrapping has a result exactly when both loops end
(`HalfTurn.wrapTurns_eq_error_iff`), and the result is within half a turn
(`HalfTurn.within_of_wrapTurns`).
-/

namespace MapMarkup

open Decimal
open Float.Model.UnpackedFloat (Sign)

/-! ### Loops -/

section

variable {α : Type}

/-- A loop that takes steps while a condition holds comes to an end with the second value. -/
inductive Ends (go : α → Prop) (step : α → α) : α → α → Prop
  | stop {a : α} (h : ¬ go a) : Ends go step a a
  | next {a b : α} (h : go a) (hb : Ends go step (step a) b) : Ends go step a b

def NeverEnds (go : α → Prop) (step : α → α) (a : α) : Prop :=
  ∀ n, go (step^[n] a)

variable {go : α → Prop} {step : α → α} {a b : α}

theorem Ends.not_go (h : Ends go step a b) : ¬ go b := by
  induction h with
  | stop h => exact h
  | next _ _ ih => exact ih

theorem Ends.eq_or_step (h : Ends go step a b) : b = a ∨ ∃ c, go c ∧ b = step c := by
  induction h with
  | stop _ => exact .inl rfl
  | @next a b h _ ih =>
    rcases ih with rfl | hstep
    · exact .inr ⟨a, h, rfl⟩
    · exact .inr hstep

private theorem Ends.not_neverEnds (h : Ends go step a b) : ¬ NeverEnds go step a := by
  induction h with
  | stop h => exact fun hgo => h (hgo 0)
  | next _ _ ih => exact fun hgo => ih fun n => hgo (n + 1)

private theorem neverEnds_of_eq (h : go a) (hstep : step a = a) : NeverEnds go step a := by
  intro n
  rwa [Function.iterate_fixed hstep]

end

/-! ### One turn -/

def Beyond (s : Sign) (bound a : Float) : Prop :=
  match s with
  | .positive => bound < a
  | .negative => a < -bound

/-- The angle one turn nearer to zero, seen from the side. -/
def nearer (s : Sign) (half a : Float) : Float :=
  match s with
  | .positive => a - 2 * half
  | .negative => a + 2 * half

/-- Half a turn of `k` binary digits, with the greatest angle that a whole turn still changes. -/
structure HalfTurn (half limit : Float) (k : ℤ) : Prop where
  isFinite : half.isFinite = true
  turn_isFinite : (2 * half).isFinite = true
  limit_isFinite : limit.isFinite = true
  value_turn : value (2 * half) = 2 * value half
  value_limit : value limit = 2 ^ (k + 53)
  low : 2 ^ (k - 1) < value (2 * half)
  high : value (2 * half) < 2 ^ k
  least : -1074 ≤ k
  greatest : k < 971

theorem halfTurn_pi : HalfTurn pi (Float.ofNat (2 ^ 56)) 3 := by
  constructor <;> decide +kernel

theorem halfTurn_degrees : HalfTurn 180 (Float.ofNat (2 ^ 62)) 9 := by
  constructor <;> decide +kernel

section

variable {half limit a : Float} {k : ℤ} {s : Sign}

theorem beyond_iff {bound : Float} (hbound : bound.isFinite = true) (ha : a.isFinite = true)
    (s : Sign) : Beyond s bound a ↔ value bound < withSign s (value a) := by
  cases s with
  | positive => exact lt_iff_value_lt hbound ha
  | negative =>
    change a < -bound ↔ value bound < -value a
    rw [lt_iff_value_lt ha (isFinite_neg hbound), value_neg hbound]
    exact lt_neg

theorem Beyond.eq_signed (h : Beyond s limit a) (ha : a.isFinite = true)
    (hlimit : limit.isFinite = true) (hpos : 0 < value limit) :
    ∃ m e, ∃ hm : Canonical m e, a = signed s hm := by
  rw [beyond_iff hlimit ha] at h
  rcases eq_zero_or_eq_signed ha with ⟨t, rfl⟩ | ⟨t, m, e, hm, rfl⟩
  · rw [value_signedZero] at h
    cases s <;> simp only [withSign] at h <;> linarith
  · have hmagnitude := hm.magnitude_pos
    rw [value_signed] at h
    obtain rfl : t = s := by
      cases s <;> cases t <;> simp only [withSign] at h <;> first | rfl | linarith
    exact ⟨m, e, hm, rfl⟩

theorem Beyond.isNaN {bound : Float} (h : Beyond s bound a) : a.isNaN = false := by
  cases s with
  | positive => exact (isNaN_of_le (float_le_of_lt h)).2
  | negative => exact (isNaN_of_le (float_le_of_lt h)).1

theorem Beyond.eq_infinite (h : Beyond s limit a) (ha : a.isFinite = false)
    (hlimit : limit.isFinite = true) : a = infinite s := by
  have hnumber := h.isNaN
  rcases eq_infinite_or_eq_notANumber ha with ⟨t, rfl⟩ | rfl
  · cases s <;> cases t
    · rfl
    · exact absurd h (not_lt_of_le (le_infinite (isNaN_of_isFinite (isFinite_neg hlimit))))
    · exact absurd h (not_lt_of_le (infinite_le (isNaN_of_isFinite hlimit)))
    · rfl
  · cases hnumber

/-- The angle is within the bound on both sides, or no number. -/
def Within (bound a : Float) : Prop :=
  ∀ s, ¬ Beyond s bound a

variable {bound : Float}

theorem within_iff_abs_le (hbound : bound.isFinite = true) (ha : a.isFinite = true) :
    Within bound a ↔ |value a| ≤ value bound := by
  unfold Within
  simp only [beyond_iff hbound ha, not_lt]
  rw [abs_le']
  constructor
  · exact fun h => ⟨h .positive, h .negative⟩
  · rintro ⟨hpositive, hnegative⟩ (_ | _)
    · exact hnegative
    · exact hpositive

theorem within_notANumber : Within bound notANumber := by
  intro s h
  cases h.isNaN

theorem Within.isFinite_or_eq (h : Within bound a) (hbound : bound.isFinite = true) :
    a.isFinite = true ∨ a = notANumber := by
  cases ha : a.isFinite with
  | true => exact .inl rfl
  | false =>
    rcases eq_infinite_or_eq_notANumber ha with ⟨s, rfl⟩ | rfl
    · cases s with
      | negative => exact absurd (infinite_lt (isFinite_neg hbound)) (h .negative)
      | positive => exact absurd (lt_infinite hbound) (h .positive)
    · exact .inr rfl

/-! ### Turns beyond the limit -/

section

variable {m : Nat} {e k : ℤ}

/-- A float beyond a power of two has a unit to match. -/
theorem Decimal.Canonical.lt_exponent (hm : Canonical m e) (h : (2 : ℚ) ^ (k + 53) < m * 2 ^ e) :
    k < e := by
  by_contra hle
  have hbits : (m : ℚ) < 2 ^ (53 : ℤ) := by exact_mod_cast hm.lt
  have hsmall : (m : ℚ) * 2 ^ e < 2 ^ (k + 53) := by
    calc (m : ℚ) * 2 ^ e < 2 ^ 53 * 2 ^ e := by gcongr
      _ = 2 ^ (53 + e) := (zpow_add₀ (by norm_num) ..).symm
      _ ≤ 2 ^ (k + 53) := zpow_le_zpow_right₀ (by norm_num) (by omega)
  exact lt_asymm h hsmall

private theorem Decimal.lt_exponent_of_eq (hpower : m = 2 ^ 52)
    (h : (2 : ℚ) ^ (k + 53) < m * 2 ^ e) : k + 1 < e := by
  by_contra hle
  have hsmall : (m : ℚ) * 2 ^ e ≤ 2 ^ (k + 53) := by
    calc (m : ℚ) * 2 ^ e = 2 ^ 52 * 2 ^ e := by rw [hpower]; norm_num
      _ = 2 ^ (52 + e) := (zpow_add₀ (by norm_num) ..).symm
      _ ≤ 2 ^ (k + 53) := zpow_le_zpow_right₀ (by norm_num) (by omega)
  exact absurd h (not_lt.mpr hsmall)

end

namespace HalfTurn

theorem half_pos (ht : HalfTurn half limit k) : 0 < value half := by
  have hlow : (0 : ℚ) < 2 ^ (k - 1) := by positivity
  linarith [ht.low, ht.value_turn]

theorem half_lt_limit (ht : HalfTurn half limit k) : value half < value limit := by
  have hpow : (2 : ℚ) ^ k < 2 ^ (k + 53) := zpow_lt_zpow_right₀ (by norm_num) (by omega)
  linarith [ht.high, ht.value_turn, ht.value_limit, ht.half_pos]

theorem rounds_nearer (ht : HalfTurn half limit k) (ha : a.isFinite = true) (s : Sign) :
    Rounds (value a - withSign s (value (2 * half))) (nearer s half a) := by
  cases s with
  | positive => exact rounds_sub ha ht.turn_isFinite
  | negative =>
    change Rounds (value a - -value (2 * half)) (a + 2 * half)
    rw [sub_neg_eq_add]
    exact rounds_add ha ht.turn_isFinite

/-- A turn is lost in a number that is greater than the limit. -/
theorem roundsTo (ht : HalfTurn half limit k) {m : Nat} {e : ℤ} (hm : Canonical m e)
    (hfar : value limit < m * 2 ^ e) : RoundsTo (m * 2 ^ e - value (2 * half)) m e := by
  have hpow : (0 : ℚ) < 2 ^ e := by positivity
  rw [ht.value_limit] at hfar
  have hexponent := hm.lt_exponent hfar
  have hturn : value (2 * half) / 2 ^ e < 1 / 2 := by
    rw [div_lt_iff₀ hpow]
    calc value (2 * half) < 2 ^ k := ht.high
      _ ≤ 2 ^ (e - 1) := zpow_le_zpow_right₀ (by norm_num) (by omega)
      _ = 1 / 2 * 2 ^ e := by rw [zpow_sub_one₀ (by norm_num)]; ring
  have hpos : 0 < value (2 * half) / 2 ^ e := by
    have := ht.half_pos
    rw [ht.value_turn]
    positivity
  have hplace : ((m : ℚ) * 2 ^ e - value (2 * half)) / 2 ^ e = m - value (2 * half) / 2 ^ e := by
    field_simp
  refine ⟨hm, ?_, ?_, fun _ => ⟨?_, ?_⟩, fun hpower _ => ?_⟩ <;> rw [hplace]
  · linarith
  · linarith
  · linarith
  · linarith
  · have hexponent' := lt_exponent_of_eq hpower hfar
    have hquarter : value (2 * half) / 2 ^ e < 1 / 4 := by
      rw [div_lt_iff₀ hpow]
      calc value (2 * half) < 2 ^ k := ht.high
        _ ≤ 2 ^ (e - 2) := zpow_le_zpow_right₀ (by norm_num) (by omega)
        _ = 1 / 4 * 2 ^ e := by rw [zpow_sub₀ (by norm_num)]; norm_num; ring
    linarith

theorem nearer_eq_self (ht : HalfTurn half limit k) (h : Beyond s limit a) :
    nearer s half a = a := by
  have hlimit : 0 < value limit := ht.half_pos.trans ht.half_lt_limit
  cases ha : a.isFinite with
  | true =>
    obtain ⟨m, e, hm, rfl⟩ := h.eq_signed ha ht.limit_isFinite hlimit
    rw [beyond_iff ht.limit_isFinite ha, value_signed] at h
    have hfar : value limit < m * 2 ^ e := by cases s <;> simpa [withSign] using h
    have hrounds := ht.rounds_nearer ha s
    rw [value_signed] at hrounds
    refine Rounds.eq_signed s ?_ (ht.roundsTo hm hfar)
    convert hrounds using 1
    cases s
    · simp only [withSign]; ring
    · rfl
  | false =>
    rw [h.eq_infinite ha ht.limit_isFinite]
    cases s with
    | positive => exact infinite_sub _ ht.turn_isFinite
    | negative => exact infinite_add _ ht.turn_isFinite

theorem beyond_half (ht : HalfTurn half limit k) (h : Beyond s limit a) : Beyond s half a := by
  have hlt := ht.half_lt_limit
  cases s with
  | positive =>
    exact float_lt_of_le_of_lt ((le_iff_value_le ht.isFinite ht.limit_isFinite).mpr hlt.le) h
  | negative =>
    refine float_lt_of_lt_of_le h ?_
    rw [le_iff_value_le (isFinite_neg ht.limit_isFinite) (isFinite_neg ht.isFinite),
      value_neg ht.limit_isFinite, value_neg ht.isFinite]
    exact neg_le_neg hlt.le

theorem not_beyond_neg (ht : HalfTurn half limit k) (h : Beyond s half a) :
    ¬ Beyond (-s) half a := by
  have hle : -half ≤ half := by
    rw [le_iff_value_le (isFinite_neg ht.isFinite) ht.isFinite, value_neg ht.isFinite]
    linarith [ht.half_pos]
  cases s with
  | positive => exact not_lt_of_le (float_le_trans hle (float_le_of_lt h))
  | negative => exact not_lt_of_le (float_le_trans (float_le_of_lt h) hle)

theorem isFinite_of_beyond (ht : HalfTurn half limit k) (h : Beyond s half a)
    (hnear : ¬ Beyond s limit a) : a.isFinite = true := by
  by_contra hfinite
  obtain rfl := h.eq_infinite (Bool.not_eq_true _ ▸ hfinite) ht.isFinite
  cases s with
  | positive => exact hnear (lt_infinite ht.limit_isFinite)
  | negative => exact hnear (infinite_lt (isFinite_neg ht.limit_isFinite))

theorem not_beyond_nearer (ht : HalfTurn half limit k) (h : Beyond s half a) :
    ¬ Beyond (-s) half (nearer s half a) := by
  by_cases hfar : Beyond s limit a
  · rw [ht.nearer_eq_self hfar]
    exact ht.not_beyond_neg h
  · have ha := ht.isFinite_of_beyond h hfar
    have hrounds := ht.rounds_nearer ha s
    have hturn := ht.value_turn
    rw [beyond_iff ht.isFinite ha] at h
    cases s with
    | positive =>
      have hhalf := Rounds.self (isFinite_neg ht.isFinite)
      rw [value_neg ht.isFinite] at hhalf
      exact not_lt_of_le (hhalf.le hrounds (by simp only [withSign] at h ⊢; linarith))
    | negative =>
      have hhalf := Rounds.self ht.isFinite
      exact not_lt_of_le (hrounds.le hhalf (by simp only [withSign] at h ⊢; linarith))

theorem value_nearer_lt (ht : HalfTurn half limit k) (h : Beyond s half a)
    (hnear : ¬ Beyond s limit a) : (nearer s half a).isFinite = true
      ∧ withSign s (value (nearer s half a)) < withSign s (value a) := by
  have ha := ht.isFinite_of_beyond h hnear
  have hturn := ht.value_turn
  have hlow := ht.low
  have hhalf := ht.half_pos
  rw [beyond_iff ht.isFinite ha] at h
  rw [beyond_iff ht.limit_isFinite ha, not_lt, ht.value_limit] at hnear
  have hsmall : value half < 2 ^ (k + 53) := ht.value_limit ▸ ht.half_lt_limit
  have hbound : |value a - withSign s (value (2 * half))| < 2 ^ (k + 53) := by
    rw [abs_lt]
    cases s <;> simp only [withSign] at * <;> constructor <;> linarith
  obtain ⟨hfinite, herror⟩ := (ht.rounds_nearer ha s).abs_value_sub_le ht.least ht.greatest hbound
  refine ⟨hfinite, ?_⟩
  rw [abs_le] at herror
  cases s <;> simp only [withSign] at * <;> linarith

end HalfTurn

/-! ### The loops over whole turns -/

/-- Takes whole turns from an angle until it is no more than half a turn away on the side. -/
def nearTurns (s : Sign) (half a : Float) : Option Float :=
  match s with
  | .positive => lowerTurns half a
  | .negative => raiseTurns half a

private theorem nearTurns_of_not_beyond (h : ¬ Beyond s half a) : nearTurns s half a = some a := by
  cases s with
  | positive =>
    unfold nearTurns lowerTurns
    exact if_neg h
  | negative =>
    unfold nearTurns raiseTurns
    exact if_neg h

private theorem nearTurns_of_near (h : Beyond s half a)
    (hnext : ¬ Beyond s half (nearer s half a)) :
    nearTurns s half a = some (nearer s half a) := by
  cases s with
  | positive =>
    unfold nearTurns lowerTurns
    exact (if_pos h).trans (if_neg hnext)
  | negative =>
    unfold nearTurns raiseTurns
    exact (if_pos h).trans (if_neg hnext)

theorem nearTurns_of_beyond (h : Beyond s half a) (hnext : Beyond s half (nearer s half a)) :
    nearTurns s half a
      = if (nearer s half a).toBits.toNat < a.toBits.toNat then nearTurns s half (nearer s half a)
        else none := by
  cases s with
  | positive =>
    unfold nearTurns
    rw [lowerTurns]
    exact (if_pos h).trans (if_pos hnext)
  | negative =>
    unfold nearTurns
    rw [raiseTurns]
    exact (if_pos h).trans (if_pos hnext)

private theorem toBits_lt_toBits {m n : Nat} {e f : ℤ} (s : Sign) (hm : Canonical m e)
    (hn : Canonical n f) (h : (m : ℚ) * 2 ^ e < n * 2 ^ f) :
    (signed s hm).toBits.toNat < (signed s hn).toBits.toNat := by
  have hlex : e < f ∨ e = f ∧ m < n := by
    have := (hn.lex_le_iff hm).not.mpr (not_le.mpr h)
    omega
  have hbits := toNat_toBits_signed s hm
  have hbits' := toNat_toBits_signed s hn
  have := hm.lt
  have := hn.lt
  have := hm.least
  have := hm.full
  have := hn.full
  change (signed s hm).toBits.toNat = _ at hbits
  change (signed s hn).toBits.toNat = _ at hbits'
  rw [hbits, hbits']
  split <;> split <;> omega

/-- A turn within the limit that does not end the loop takes away from the bits. -/
theorem HalfTurn.toBits_nearer_lt (ht : HalfTurn half limit k) (h : Beyond s half a)
    (hnear : ¬ Beyond s limit a) (hnext : Beyond s half (nearer s half a)) :
    (nearer s half a).toBits.toNat < a.toBits.toNat := by
  obtain ⟨hfinite, hlt⟩ := ht.value_nearer_lt h hnear
  have ha := ht.isFinite_of_beyond h hnear
  obtain ⟨m, e, hm, hsigned⟩ := hnext.eq_signed hfinite ht.isFinite ht.half_pos
  rw [hsigned] at hlt ⊢
  obtain ⟨n, f, hn, rfl⟩ := h.eq_signed ha ht.isFinite ht.half_pos
  apply toBits_lt_toBits
  rw [value_signed, value_signed] at hlt
  cases s <;> simpa only [withSign, neg_neg] using hlt

private theorem HalfTurn.not_beyond_limit_nearer (ht : HalfTurn half limit k) (h : Beyond s half a)
    (hnear : ¬ Beyond s limit a) : ¬ Beyond s limit (nearer s half a) := by
  obtain ⟨hfinite, hlt⟩ := ht.value_nearer_lt h hnear
  rw [beyond_iff ht.limit_isFinite (ht.isFinite_of_beyond h hnear), not_lt] at hnear
  rw [beyond_iff ht.limit_isFinite hfinite, not_lt]
  exact hlt.le.trans hnear

/-- Within the limit the loop ends with its result, because every turn that does not end it takes
away from the bits. -/
theorem HalfTurn.exists_ends (ht : HalfTurn half limit k) (hnear : ¬ Beyond s limit a) :
    ∃ b, nearTurns s half a = some b ∧ Ends (Beyond s half) (nearer s half) a b := by
  induction hbits : a.toBits.toNat using Nat.strong_induction_on generalizing a with
  | _ n ih =>
    by_cases h : Beyond s half a
    · by_cases hnext : Beyond s half (nearer s half a)
      · have hlt := ht.toBits_nearer_lt h hnear hnext
        obtain ⟨b, hb, hends⟩ := ih _ (hbits ▸ hlt) (ht.not_beyond_limit_nearer h hnear) rfl
        refine ⟨b, ?_, .next h hends⟩
        rw [nearTurns_of_beyond h hnext, if_pos hlt, hb]
      · exact ⟨_, nearTurns_of_near h hnext, .next h (.stop hnext)⟩
    · exact ⟨a, nearTurns_of_not_beyond h, .stop h⟩

/-- Beyond the limit the loop goes on with the same angle for ever, and has no result. -/
theorem HalfTurn.neverEnds_of_beyond (ht : HalfTurn half limit k) (hfar : Beyond s limit a) :
    nearTurns s half a = none ∧ NeverEnds (Beyond s half) (nearer s half) a := by
  have h := ht.beyond_half hfar
  have hsame := ht.nearer_eq_self hfar
  refine ⟨?_, neverEnds_of_eq h hsame⟩
  rw [nearTurns_of_beyond h (hsame.symm ▸ h), hsame, if_neg (lt_irrefl _)]

theorem HalfTurn.nearTurns_eq_none_iff (ht : HalfTurn half limit k) :
    nearTurns s half a = none ↔ Beyond s limit a := by
  refine ⟨fun hnone => ?_, fun hfar => (ht.neverEnds_of_beyond hfar).1⟩
  by_contra hnear
  obtain ⟨b, hb, _⟩ := ht.exists_ends hnear
  rw [hb] at hnone
  cases hnone

/-- The loop never ends exactly when the angle lies beyond the limit. -/
theorem HalfTurn.neverEnds_iff (ht : HalfTurn half limit k) :
    NeverEnds (Beyond s half) (nearer s half) a ↔ Beyond s limit a := by
  refine ⟨fun hnever => ?_, fun hfar => (ht.neverEnds_of_beyond hfar).2⟩
  by_contra hnear
  obtain ⟨b, _, hends⟩ := ht.exists_ends hnear
  exact hends.not_neverEnds hnever

theorem HalfTurn.ends_of_nearTurns (ht : HalfTurn half limit k) {b : Float}
    (hb : nearTurns s half a = some b) : Ends (Beyond s half) (nearer s half) a b := by
  have hnear : ¬ Beyond s limit a := by
    intro hfar
    rw [ht.nearTurns_eq_none_iff.mpr hfar] at hb
    cases hb
  obtain ⟨b', hb', hends⟩ := ht.exists_ends hnear
  rw [hb] at hb'
  cases hb'
  exact hends

end

/-! ### Wrapping -/

/-- Wrapping an angle is two loops, one after the other, of which one never ends. -/
def WrapsForever (half a : Float) : Prop :=
  NeverEnds (Beyond .positive half) (nearer .positive half) a
    ∨ ∃ b, Ends (Beyond .positive half) (nearer .positive half) a b
      ∧ NeverEnds (Beyond .negative half) (nearer .negative half) b

theorem wrapTurns_eq (half a : Float) : wrapTurns half a
    = match (nearTurns .positive half a).bind (nearTurns .negative half) with
      | some b => .ok b
      | none => .error .endless := rfl

namespace HalfTurn

variable {half limit a : Float} {k : ℤ}

theorem beyond_negative_iff_of_ends (ht : HalfTurn half limit k) {b : Float}
    (h : Ends (Beyond .positive half) (nearer .positive half) a b) :
    Beyond .negative limit b ↔ Beyond .negative limit a := by
  cases h with
  | stop _ => exact Iff.rfl
  | next hgo hends =>
    refine iff_of_false (fun hfar => ?_) fun hfar => ht.not_beyond_neg hgo (ht.beyond_half hfar)
    obtain ⟨c, hc, hb⟩ : ∃ c, Beyond .positive half c ∧ b = nearer .positive half c := by
      rcases hends.eq_or_step with hb | hstep
      · exact ⟨a, hgo, hb⟩
      · exact hstep
    rw [hb] at hfar
    exact ht.not_beyond_nearer hc (ht.beyond_half hfar)

/-- Wrapping an angle never ends exactly when the angle lies beyond the limit on one of its sides.
-/
theorem wrapsForever_iff (ht : HalfTurn half limit k) :
    WrapsForever half a ↔ limit < a ∨ a < -limit := by
  refine or_congr ht.neverEnds_iff ?_
  constructor
  · rintro ⟨b, hends, hnever⟩
    exact (ht.beyond_negative_iff_of_ends hends).mp (ht.neverEnds_iff.mp hnever)
  · intro hfar
    refine ⟨a, .stop ?_, ht.neverEnds_iff.mpr hfar⟩
    exact ht.not_beyond_neg (s := .negative) (ht.beyond_half hfar)

theorem not_wrapsForever_iff (ht : HalfTurn half limit k) :
    ¬ WrapsForever half a ↔ Within limit a := by
  rw [ht.wrapsForever_iff, not_or]
  exact ⟨fun h => Sign.rec h.2 h.1, fun h => ⟨h .positive, h .negative⟩⟩

/-- Wrapping an angle has no result exactly when it never ends. -/
theorem wrapTurns_eq_error_iff (ht : HalfTurn half limit k) :
    wrapTurns half a = .error .endless ↔ WrapsForever half a := by
  rw [ht.wrapsForever_iff, wrapTurns_eq]
  cases hlower : nearTurns .positive half a with
  | none => exact iff_of_true rfl (.inl (ht.nearTurns_eq_none_iff.mp hlower))
  | some m =>
    have hnear : ¬ Beyond .positive limit a := fun hfar => by
      rw [ht.nearTurns_eq_none_iff.mpr hfar] at hlower
      cases hlower
    have hother := ht.beyond_negative_iff_of_ends (ht.ends_of_nearTurns hlower)
    rw [Option.bind_some]
    cases hraise : nearTurns .negative half m with
    | none => exact iff_of_true rfl (.inr (hother.mp (ht.nearTurns_eq_none_iff.mp hraise)))
    | some b =>
      refine iff_of_false (fun h => by cases h) ?_
      rintro (hfar | hfar)
      · exact hnear hfar
      · rw [ht.nearTurns_eq_none_iff.mpr (hother.mpr hfar)] at hraise
        cases hraise

theorem within_of_wrapTurns (ht : HalfTurn half limit k) {b : Float}
    (hb : wrapTurns half a = .ok b) : Within half b := by
  intro s
  rw [wrapTurns_eq] at hb
  cases hlower : nearTurns .positive half a with
  | none =>
    rw [hlower] at hb
    cases hb
  | some m =>
    rw [hlower, Option.bind_some] at hb
    cases hraise : nearTurns .negative half m with
    | none =>
      rw [hraise] at hb
      cases hb
    | some c =>
      rw [hraise] at hb
      cases hb
      have hends := ht.ends_of_nearTurns hraise
      cases s with
      | negative => exact hends.not_go
      | positive =>
        rcases hends.eq_or_step with rfl | ⟨d, hd, rfl⟩
        · exact (ht.ends_of_nearTurns hlower).not_go
        · exact ht.not_beyond_nearer hd

end HalfTurn

end MapMarkup
