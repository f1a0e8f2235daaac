import Mathlib

/-!
# Rounding to the nearest float

What the model of binary64 does with a number between two floats. Whatever mantissa and residual
bits a number is given by, as long as they are fine enough, the model rounds it to the nearest whole
number of its units (`roundWithAccuracy_eq_carried`). Products and quotients follow, because the
model computes both exactly before it rounds.

`RoundsTo v m e` says that `v` lies among the reals that round to the float `m * 2 ^ e`: within half
a unit of it, ends included exactly when `m` is even, and within a quarter below a power of two,
where the unit below is half as large. The model rounds such a number to that float
(`roundWithAccuracy_eq`).
-/

namespace MapMarkup.Decimal

open Float.Model Float.Model.UnpackedFloat

/-! ### Residual bits -/

/-- The residual bits of a mantissa say where in the unit above it a number lies. -/
def Places (em : ExtendedMantissa) (t : ℚ) : Prop :=
  match em.roundBit, em.stickyBit with
  | false, false => t = em.mantissa
  | false, true => em.mantissa < t ∧ t < em.mantissa + 1 / 2
  | true, false => t = em.mantissa + 1 / 2
  | true, true => em.mantissa + 1 / 2 < t ∧ t < em.mantissa + 1

theorem Places.bounds {em : ExtendedMantissa} {t : ℚ} (h : Places em t) :
    (em.mantissa : ℚ) ≤ t ∧ t < em.mantissa + 1 := by
  obtain ⟨m, r, s⟩ := em
  cases r <;> cases s <;> simp only [Places] at h ⊢ <;> constructor <;> linarith

theorem Places.shiftRightOne {em : ExtendedMantissa} {t : ℚ} (h : Places em t) :
    Places em.shiftRightOne (t / 2) := by
  obtain ⟨m, r, s⟩ := em
  have hm : (m : ℚ) = 2 * (m / 2 : Nat) + (m % 2 : Nat) := by
    exact_mod_cast (Nat.div_add_mod m 2).symm
  rcases Nat.mod_two_eq_zero_or_one m with hpar | hpar
  · rw [hpar, Nat.cast_zero, add_zero] at hm
    cases r <;> cases s <;>
      simp only [Places, ExtendedMantissa.shiftRightOne, hpar, hm, bne_self_eq_false, Bool.or_self,
        Bool.or_true, Bool.or_false] at h ⊢ <;>
      first | linarith | constructor <;> linarith
  · rw [hpar, Nat.cast_one] at hm
    have hone : (1 != 0) = true := rfl
    cases r <;> cases s <;>
      simp only [Places, ExtendedMantissa.shiftRightOne, hpar, hm, hone, Bool.or_self,
        Bool.or_true, Bool.or_false] at h ⊢ <;>
      first | linarith | constructor <;> linarith

theorem Places.shiftRight {em : ExtendedMantissa} {t : ℚ} (h : Places em t) (n : Nat) :
    Places (em >>> n) (t / 2 ^ n) := by
  change Places (n.repeat ExtendedMantissa.shiftRightOne em) _
  induction n with
  | zero => simpa [Nat.repeat] using h
  | succ n ih =>
    rw [pow_succ, ← div_div]
    exact ih.shiftRightOne

/-- `n` is the whole number nearest to `t`, the even one of two. -/
structure IsNearest (t : ℚ) (n : Nat) : Prop where
  low : (n : ℚ) - 1 / 2 ≤ t
  high : t ≤ n + 1 / 2
  odd : n % 2 = 1 → (n : ℚ) - 1 / 2 < t ∧ t < n + 1 / 2

theorem IsNearest.mono {t t' : ℚ} {n n' : Nat} (h : IsNearest t n) (h' : IsNearest t' n')
    (htt : t ≤ t') : n ≤ n' := by
  by_contra hlt
  have hlow := h.low
  have hhigh := h'.high
  have hnear : (n : ℚ) ≤ n' + 1 := by linarith
  have hsucc : n = n' + 1 := by
    have : n ≤ n' + 1 := by exact_mod_cast hnear
    omega
  have hcast : (n : ℚ) = n' + 1 := by exact_mod_cast hsucc
  rcases Nat.mod_two_eq_zero_or_one n with hpar | hpar
  · have := (h'.odd (by omega)).2
    linarith
  · have := (h.odd hpar).1
    linarith

theorem IsNearest.unique {t : ℚ} {n n' : Nat} (h : IsNearest t n) (h' : IsNearest t n') : n = n' :=
  le_antisymm (h.mono h' le_rfl) (h'.mono h le_rfl)

theorem IsNearest.le_of_lt {t : ℚ} {n k : Nat} (h : IsNearest t n) (ht : t < (k : ℚ)) : n ≤ k :=
  h.mono ⟨by linarith, by linarith, fun _ => ⟨by linarith, by linarith⟩⟩ ht.le

theorem IsNearest.le_of_le {t : ℚ} {n k : Nat} (h : IsNearest t n) (ht : (k : ℚ) ≤ t) : k ≤ n :=
  IsNearest.mono ⟨by linarith, by linarith, fun _ => ⟨by linarith, by linarith⟩⟩ h ht

/-- The residual bits round a number to the nearest whole number. -/
theorem Places.isNearest {em : ExtendedMantissa} {t : ℚ} (h : Places em t) :
    IsNearest t em.roundedMantissa := by
  obtain ⟨k, r, s⟩ := em
  have hpar := Nat.mod_two_eq_zero_or_one k
  cases r <;> cases s <;>
    simp only [Places, ExtendedMantissa.roundedMantissa, ExtendedMantissa.accuracy,
      Accuracy.roundToNearestEven] at h ⊢
  · exact ⟨by linarith, by linarith, fun _ => ⟨by linarith, by linarith⟩⟩
  · exact ⟨by linarith, by linarith, fun _ => ⟨by linarith, by linarith⟩⟩
  · rcases hpar with hpar | hpar <;> rw [hpar]
    · exact ⟨by push_cast; linarith, by push_cast; linarith, fun hodd => by omega⟩
    · exact ⟨by push_cast; linarith, by push_cast; linarith, fun hodd => by omega⟩
  · exact ⟨by push_cast; linarith, by push_cast; linarith,
      fun _ => ⟨by push_cast; linarith, by push_cast; linarith⟩⟩

/-! ### Numbers that round to a float -/

/-- A mantissa and an exponent as a positive float has them: 53 bits, fewer only at the least
exponent. -/
structure Canonical (m : Nat) (e : Int) : Prop where
  pos : 0 < m
  lt : m < 2 ^ 53
  least : -1074 ≤ e
  greatest : e ≤ 971
  full : 2 ^ 52 ≤ m ∨ e = -1074

/-- The number lies among those that round to the float `m * 2 ^ e`. -/
structure RoundsTo (v : ℚ) (m : Nat) (e : Int) : Prop where
  canonical : Canonical m e
  low : (m : ℚ) - 1 / 2 ≤ v / 2 ^ e
  high : v / 2 ^ e ≤ m + 1 / 2
  odd : m % 2 = 1 → (m : ℚ) - 1 / 2 < v / 2 ^ e ∧ v / 2 ^ e < m + 1 / 2
  narrow : m = 2 ^ 52 → e ≠ -1074 → (m : ℚ) - 1 / 4 ≤ v / 2 ^ e

theorem RoundsTo.pos {v : ℚ} {m : Nat} {e : Int} (h : RoundsTo v m e) : 0 < v := by
  have hm : (1 : ℚ) ≤ m := by exact_mod_cast h.canonical.pos
  have hlow := h.low
  have ht : 0 < v / 2 ^ e := by linarith
  exact (div_pos_iff_of_pos_right (by positivity)).mp ht

theorem RoundsTo.self {m : Nat} {e : Int} (h : Canonical m e) :
    RoundsTo (m * 2 ^ e) m e := by
  have ht : (m : ℚ) * 2 ^ e / 2 ^ e = m := by
    field_simp
  constructor
  · exact h
  · rw [ht]; linarith
  · rw [ht]; linarith
  · intro _
    rw [ht]
    constructor <;> linarith
  · intro _ _
    rw [ht]
    linarith

/-- The exponent of the unit to which a number is rounded. -/
def unitExponent (v : ℚ) : Int :=
  max (Int.log 2 v - 52) (-1074)

theorem log_eq_of_bounds {v : ℚ} {k : Int} (hlow : 2 ^ k ≤ v) (hhigh : v < 2 ^ (k + 1)) :
    Int.log 2 v = k := by
  have hv : 0 < v := lt_of_lt_of_le (by positivity) hlow
  have h₁ := (Int.zpow_le_iff_le_log (b := 2) (by norm_num) hv).mp (by exact_mod_cast hlow)
  have h₂ := (Int.lt_zpow_iff_log_lt (b := 2) (by norm_num) hv).mp (by exact_mod_cast hhigh)
  omega

/-- Counted in its unit, a number has at most 53 bits, and fewer only in the least unit. -/
theorem div_unitExponent_bounds {v : ℚ} (hv : 0 < v) :
    v / 2 ^ unitExponent v < 2 ^ 53
      ∧ (unitExponent v = -1074 ∨ 2 ^ 52 ≤ v / 2 ^ unitExponent v) := by
  have hlow := Int.zpow_log_le_self (b := 2) (by norm_num) hv
  have hhigh := Int.lt_zpow_succ_log_self (b := 2) (by norm_num) v
  have hpow : (0 : ℚ) < 2 ^ unitExponent v := by positivity
  have hunit : unitExponent v = max (Int.log 2 v - 52) (-1074) := rfl
  constructor
  · rw [div_lt_iff₀ hpow]
    calc v < 2 ^ (Int.log 2 v + 1) := by exact_mod_cast hhigh
      _ ≤ 2 ^ (53 + unitExponent v) := zpow_le_zpow_right₀ (by norm_num) (by omega)
      _ = 2 ^ 53 * 2 ^ unitExponent v := zpow_add₀ (by norm_num) ..
  · by_cases hleast : unitExponent v = -1074
    · exact .inl hleast
    · right
      rw [le_div_iff₀ hpow]
      calc (2 : ℚ) ^ 52 * 2 ^ unitExponent v = 2 ^ (52 + unitExponent v) :=
            (zpow_add₀ (by norm_num) ..).symm
        _ = 2 ^ Int.log 2 v := by congr 1; omega
        _ ≤ v := by exact_mod_cast hlow

/-- The unit to which a number is rounded is the one of the float it rounds to, or half of it just
below a power of two. -/
theorem RoundsTo.unitExponent_eq {v : ℚ} {m : Nat} {e : Int} (h : RoundsTo v m e) :
    unitExponent v = e ∨ (unitExponent v = e - 1 ∧ m = 2 ^ 52 ∧ v / 2 ^ e < m) := by
  have hv := h.pos
  have hhigh := h.high
  have hlow := h.low
  have hleast := h.canonical.least
  have hpow : (0 : ℚ) < 2 ^ e := by positivity
  have hlt : (m : ℚ) + 1 / 2 < 2 ^ 53 := by
    have : (m : ℚ) + 1 ≤ 2 ^ 53 := by exact_mod_cast h.canonical.lt
    linarith
  have htop : v < 2 ^ (e + 52 + 1) := by
    rw [show e + 52 + 1 = 53 + e by ring, zpow_add₀ (by norm_num)]
    rw [div_le_iff₀ hpow] at hhigh
    exact lt_of_le_of_lt hhigh (by gcongr; exact_mod_cast hlt)
  by_cases he : e = -1074
  · left
    have := (Int.lt_zpow_iff_log_lt (b := 2) (by norm_num) hv).mp (by exact_mod_cast htop)
    unfold unitExponent
    omega
  · have hfull : 2 ^ 52 ≤ m := h.canonical.full.resolve_right he
    rcases le_or_gt ((2 : ℚ) ^ (e + 52)) v with hge | hltv
    · left
      have := log_eq_of_bounds hge htop
      unfold unitExponent
      omega
    · right
      have ht : v / 2 ^ e < 2 ^ 52 := by
        rw [div_lt_iff₀ hpow]
        rw [show e + 52 = 52 + e by ring, zpow_add₀ (by norm_num)] at hltv
        exact_mod_cast hltv
      have hm : m = 2 ^ 52 := by
        have : (m : ℚ) < 2 ^ 52 + 1 := by linarith
        have : m < 2 ^ 52 + 1 := by exact_mod_cast this
        omega
      have hnarrow := h.narrow hm he
      have hbottom : 2 ^ (e + 51) ≤ v := by
        rw [show e + 51 = 51 + e by ring, zpow_add₀ (by norm_num)]
        rw [le_div_iff₀ hpow, hm] at hnarrow
        refine le_trans ?_ hnarrow
        gcongr
        norm_num
      have := log_eq_of_bounds hbottom (by rw [show e + 51 + 1 = e + 52 by ring]; exact hltv)
      refine ⟨by unfold unitExponent; omega, hm, ?_⟩
      rw [hm]
      exact_mod_cast ht

theorem log_lt_of_lt {v : ℚ} {k : Int} (hv : 0 < v) (h : v < 2 ^ k) : Int.log 2 v < k :=
  (Int.lt_zpow_iff_log_lt (b := 2) (by norm_num) hv).mp (by exact_mod_cast h)

/-- A mantissa that is fine enough tells in which unit its number is rounded. -/
theorem targetExponent_eq_unitExponent {v : ℚ} {m : Nat} {e : Int} (hv : 0 < v)
    (hlow : (m : ℚ) ≤ v / 2 ^ e) (hhigh : v / 2 ^ e < m + 1)
    (hfine : e ≤ Format.binary64.targetExponent (totalExponent m e)) :
    Format.binary64.targetExponent (totalExponent m e) = unitExponent v := by
  have hpow : (0 : ℚ) < 2 ^ e := by positivity
  have htarget : Format.binary64.targetExponent (totalExponent m e)
      = max ((m.log2 : Int) + 1 + e - 53) (-1074) := by
    simp [Format.targetExponent, totalExponent, Format.mantissaBits, Format.minExponent]
  rw [htarget] at hfine ⊢
  unfold unitExponent
  rcases Nat.eq_zero_or_pos m with rfl | hm
  · have hlog : Int.log 2 v < e := by
      apply log_lt_of_lt hv
      rw [div_lt_iff₀ hpow] at hhigh
      simpa using hhigh
    rw [Nat.log2_zero] at hfine ⊢
    omega
  · have hlog : Int.log 2 v = m.log2 + e := by
      apply log_eq_of_bounds
      · rw [zpow_add₀ (by norm_num), ← le_div_iff₀ hpow, zpow_natCast]
        refine le_trans ?_ hlow
        exact_mod_cast Nat.log2_self_le hm.ne'
      · rw [show (m.log2 : Int) + e + 1 = (m.log2 + 1 : Nat) + e by push_cast; ring,
          zpow_add₀ (by norm_num), ← div_lt_iff₀ hpow, zpow_natCast]
        refine lt_of_lt_of_le hhigh ?_
        exact_mod_cast Nat.lt_log2_self
    rw [hlog]
    omega

/-! ### The rounding of the model -/

theorem places_ofMantissaAndAccuracy_exact (m : Nat) :
    Places (ExtendedMantissa.ofMantissaAndAccuracy m .exact) m := by
  simp [Places, ExtendedMantissa.ofMantissaAndAccuracy]

theorem mantissa_ofMantissaAndAccuracy (m : Nat) (acc : Accuracy) :
    (ExtendedMantissa.ofMantissaAndAccuracy m acc).mantissa = m := by
  cases acc with
  | exact => rfl
  | inexact o => cases o <;> rfl

theorem shiftToTargetExponent_of_lt {m : Nat} {e : Int} (hlt : m < 2 ^ 53) (hleast : -1074 ≤ e) :
    shiftToTargetExponent Format.binary64 m e .exact = (⟨m, false, false⟩, e) := by
  have hlog : m.log2 < 53 := by
    rcases Nat.eq_zero_or_pos m with rfl | hpos
    · decide
    · exact (Nat.log2_lt hpos.ne').mpr hlt
  have hzero : (Format.binary64.targetExponent (totalExponent m e) - e).toNat = 0 := by
    simp [Format.targetExponent, totalExponent, Format.mantissaBits, Format.minExponent]
    omega
  simp [shiftToTargetExponent, shiftToExponent, hzero, ExtendedMantissa.ofMantissaAndAccuracy,
    HShiftRight.hShiftRight, Nat.repeat]

theorem shiftToTargetExponent_of_carry {e : Int} (he : -1074 ≤ e) :
    shiftToTargetExponent Format.binary64 (2 ^ 53) e .exact = (⟨2 ^ 52, false, false⟩, e + 1) := by
  have hone : (Format.binary64.targetExponent (totalExponent (2 ^ 53) e) - e).toNat = 1 := by
    simp only [Format.targetExponent, totalExponent, Nat.log2_two_pow, Format.mantissaBits,
      Format.minExponent]
    norm_num
    omega
  unfold shiftToTargetExponent shiftToExponent
  dsimp only
  rw [hone]
  rfl

def carried (s : Sign) (n : Nat) (e : Int) : UnpackedFloat :=
  if h : n = 0 then .zero s
  else if n < 2 ^ 53 then .finite s n e (Nat.pos_of_ne_zero h)
  else .finite s (2 ^ 52) (e + 1) (by decide)

theorem carried_zero (s : Sign) (e : Int) : carried s 0 e = .zero s := rfl

theorem carried_of_lt {s : Sign} {n : Nat} {e : Int} (hpos : 0 < n) (hlt : n < 2 ^ 53) :
    carried s n e = .finite s n e hpos := by
  rw [carried, dif_neg hpos.ne', if_pos hlt]

theorem carried_full (s : Sign) (e : Int) :
    carried s (2 ^ 53) e = .finite s (2 ^ 52) (e + 1) (by decide) := rfl

/-- The model rounds a mantissa with residual bits, fine enough for its size, to the nearest whole
number of units. -/
theorem roundWithAccuracy_eq_carried {v : ℚ} (hv : 0 < v) (s : Sign) {k : Nat} {f : Int}
    {acc : Accuracy} (hplaces : Places (ExtendedMantissa.ofMantissaAndAccuracy k acc) (v / 2 ^ f))
    (hfine : f ≤ Format.binary64.targetExponent (totalExponent k f)) :
    ∃ n, IsNearest (v / 2 ^ unitExponent v) n
      ∧ roundWithAccuracy Format.binary64 s k f acc = carried s n (unitExponent v) := by
  have hbounds := hplaces.bounds
  rw [mantissa_ofMantissaAndAccuracy] at hbounds
  have htarget := targetExponent_eq_unitExponent hv hbounds.1 hbounds.2 hfine
  rw [htarget] at hfine
  obtain ⟨n, hn⟩ : ∃ n : Nat, unitExponent v = f + n := ⟨(unitExponent v - f).toNat, by omega⟩
  have hfirst : shiftToTargetExponent Format.binary64 k f acc
      = (ExtendedMantissa.ofMantissaAndAccuracy k acc >>> n, unitExponent v) := by
    unfold shiftToTargetExponent shiftToExponent
    dsimp only
    rw [htarget, show (unitExponent v - f).toNat = n by omega, hn]
  have hnearest : IsNearest (v / 2 ^ unitExponent v)
      (ExtendedMantissa.ofMantissaAndAccuracy k acc >>> n).roundedMantissa := by
    apply Places.isNearest
    rw [hn, zpow_add₀ (by norm_num), ← div_div, zpow_natCast]
    exact hplaces.shiftRight n
  refine ⟨_, hnearest, ?_⟩
  have hleast : -1074 ≤ unitExponent v := le_max_right _ _
  have hsize := hnearest.le_of_lt (div_unitExponent_bounds hv).1
  unfold roundWithAccuracy
  rw [hfirst]
  dsimp only
  generalize (ExtendedMantissa.ofMantissaAndAccuracy k acc >>> n).roundedMantissa = m at hsize
  rcases hsize.lt_or_eq with hlt | rfl
  · rw [shiftToTargetExponent_of_lt hlt hleast]
    simp only [carried, hlt, ↓reduceIte]
  · rw [shiftToTargetExponent_of_carry hleast]
    rfl

/-- The nearest whole number of units makes the float that a number rounds to. -/
theorem RoundsTo.carried_eq {v : ℚ} {m n : Nat} {e : Int} (h : RoundsTo v m e) (s : Sign)
    (hn : IsNearest (v / 2 ^ unitExponent v) n) :
    carried s n (unitExponent v) = .finite s m e h.canonical.pos := by
  rcases h.unitExponent_eq with hunit | ⟨hunit, hm, hbelow⟩
  · rw [hunit] at hn ⊢
    obtain rfl := hn.unique ⟨h.low, h.high, h.odd⟩
    exact carried_of_lt h.canonical.pos h.canonical.lt
  · have hleast : -1074 ≤ unitExponent v := le_max_right _ _
    have hdouble : v / 2 ^ unitExponent v = 2 * (v / 2 ^ e) := by
      rw [hunit, zpow_sub_one₀ (by norm_num)]
      field_simp
    have hnarrow := h.narrow hm (by omega)
    rw [hm] at hnarrow hbelow
    have hcarry : IsNearest (v / 2 ^ unitExponent v) (2 ^ 53) := by
      rw [hdouble]
      push_cast at hnarrow hbelow
      refine ⟨?_, ?_, fun hodd => absurd hodd (by norm_num)⟩ <;> push_cast <;> linarith
    rw [hn.unique hcarry, carried_full, hunit]
    simp only [hm, sub_add_cancel]

theorem roundWithAccuracy_eq {v : ℚ} {m : Nat} {e : Int} (h : RoundsTo v m e) (s : Sign)
    {k : Nat} {f : Int} {acc : Accuracy}
    (hplaces : Places (ExtendedMantissa.ofMantissaAndAccuracy k acc) (v / 2 ^ f))
    (hfine : f ≤ Format.binary64.targetExponent (totalExponent k f)) :
    roundWithAccuracy Format.binary64 s k f acc = .finite s m e h.canonical.pos := by
  obtain ⟨n, hn, hround⟩ := roundWithAccuracy_eq_carried h.pos s hplaces hfine
  rw [hround, h.carried_eq s hn]

end MapMarkup.Decimal
