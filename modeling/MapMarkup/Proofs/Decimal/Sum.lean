import MapMarkup.Proofs.Decimal.Division

/-!
# Sums and products of floats

A sum or difference of finite floats is the exact one rounded to the nearest float, and so is a
product in which one factor has all 53 bits (`Rounds`). Rounding keeps the order of numbers
(`Rounds.le`), leaves a float alone (`Rounds.self`) and moves no number by more than half of its
unit (`Rounds.abs_value_sub_le`).
-/

namespace MapMarkup.Decimal

open Float.Model Float.Model.UnpackedFloat

/-- The float is the number, rounded to the nearest. -/
inductive Rounds : ℚ → Float → Prop
  | zero (s : Sign) : Rounds 0 (signedZero s)
  | nonzero (s : Sign) {v : ℚ} {n : Nat} (hv : 0 < v)
      (hn : IsNearest (v / 2 ^ unitExponent v) n) :
      Rounds (withSign s v) (rounded s n (unitExponent v))

theorem infinite_le {x : Float} (hx : x.isNaN = false) : infinite .negative ≤ x := by
  rw [le_iff_rank_le rfl hx]
  change toLex (-2, toLex (0, 0)) ≤ rank x.toModel.unpack
  rcases x.toModel.unpack with (_ | _) | _ | (_ | _) | (_ | _) <;>
    simp [rank, Prod.Lex.toLex_le_toLex]

section

variable {x y : Float} {v w : ℚ}

private theorem Holds.le_of_negative (hx : Holds .negative x v) (hy : Holds .negative y w)
    (h : w ≤ v) :
    x ≤ y := by
  rcases hy with ⟨hfinite', hvalue', _⟩ | ⟨rfl, hlarge⟩
  · rcases hx with ⟨hfinite, hvalue, _⟩ | ⟨rfl, _⟩
    · rw [le_iff_value_le hfinite hfinite', hvalue, hvalue']
      exact neg_le_neg h
    · exact infinite_le (isNaN_of_isFinite hfinite')
  · rcases hx with ⟨_, _, hsmall⟩ | ⟨rfl, _⟩
    · exact absurd (hlarge.trans h) (not_le.mpr hsmall)
    · exact infinite_le rfl

namespace Rounds

theorem le (hx : Rounds v x) (hy : Rounds w y) (h : v ≤ w) : x ≤ y := by
  cases hx with
  | zero s =>
    have hs : signedZero s ≤ 0 := by cases s <;> decide
    cases hy with
    | zero t => cases s <;> cases t <;> decide
    | nonzero t hw hn =>
      have hholds := holds_of_isNearest t hw hn
      cases t with
      | negative => exact absurd h (not_le.mpr (neg_neg_of_pos hw))
      | positive => exact float_le_trans hs (hholds.nonneg (by positivity))
  | nonzero s hv hm =>
    have hholds := holds_of_isNearest s hv hm
    cases hy with
    | zero t =>
      have ht : 0 ≤ signedZero t := by cases t <;> decide
      cases s with
      | negative => exact float_le_trans (hholds.nonpos (by positivity)) ht
      | positive => exact absurd h (not_le.mpr hv)
    | nonzero t hw hn =>
      have hholds' := holds_of_isNearest t hw hn
      cases s with
      | negative =>
        cases t with
        | negative =>
          exact hholds.le_of_negative hholds' (rounded_mono hw (neg_le_neg_iff.mp h) hn hm)
        | positive =>
          exact float_le_trans (hholds.nonpos (by positivity)) (hholds'.nonneg (by positivity))
      | positive =>
        cases t with
        | negative =>
          exact absurd (h.trans_lt (neg_neg_of_pos hw)) (not_lt.mpr hv.le)
        | positive => exact hholds.le hholds' (rounded_mono hv h hm hn)

theorem eq_signed {m : Nat} {e : Int} (s : Sign) (hx : Rounds (withSign s v) x)
    (h : RoundsTo v m e) : x = signed s h.canonical := by
  have hpos := h.pos
  generalize hu : withSign s v = u at hx
  cases hx with
  | zero t => cases s <;> simp only [withSign] at hu <;> linarith
  | @nonzero t w n hw hn =>
    obtain ⟨rfl, rfl⟩ : s = t ∧ v = w := by
      cases s <;> cases t <;> simp only [withSign] at hu
      · exact ⟨rfl, by linarith⟩
      · linarith
      · linarith
      · exact ⟨rfl, hu⟩
    unfold rounded
    rw [h.carried_eq s hn]
    rfl

theorem self (hx : x.isFinite = true) : Rounds (value x) x := by
  rcases eq_zero_or_eq_signed hx with ⟨s, rfl⟩ | ⟨s, m, e, hm, rfl⟩
  · rw [value_signedZero]
    exact .zero s
  · have hself := RoundsTo.self hm
    have hunit : unitExponent (m * 2 ^ e) = e := by
      rcases hself.unitExponent_eq with hunit | ⟨_, _, hbelow⟩
      · exact hunit
      · rw [mul_div_cancel_right₀ _ (by positivity)] at hbelow
        exact absurd hbelow (lt_irrefl _)
    have hn : IsNearest ((m : ℚ) * 2 ^ e / 2 ^ unitExponent (m * 2 ^ e)) m := by
      rw [hunit]
      exact ⟨hself.low, hself.high, hself.odd⟩
    have hrounds := Rounds.nonzero s hself.pos hn
    rwa [hrounds.eq_signed s hself, ← value_signed s hm] at hrounds

/-- A number of at most `k + 53` binary digits moves by at most half of the last one. -/
theorem abs_value_sub_le {k : Int} (hx : Rounds v x) (hk : -1074 ≤ k) (hk' : k < 971)
    (hv : |v| < 2 ^ (k + 53)) : x.isFinite = true ∧ |value x - v| ≤ 2 ^ (k - 1) := by
  cases hx with
  | zero s =>
    refine ⟨by cases s <;> rfl, ?_⟩
    rw [value_signedZero, sub_zero, abs_zero]
    positivity
  | @nonzero s v n hpos hn =>
    have habs : |withSign s v| = v := by
      cases s <;> simp only [withSign, abs_neg] <;> exact abs_of_pos hpos
    rw [habs] at hv
    have hunit : unitExponent v ≤ k := by
      have := log_lt_of_lt hpos hv
      unfold unitExponent
      omega
    have hpow : (0 : ℚ) < 2 ^ unitExponent v := by positivity
    have herror : |(n : ℚ) * 2 ^ unitExponent v - v| ≤ 2 ^ (k - 1) := by
      have hnear : |(n : ℚ) - v / 2 ^ unitExponent v| ≤ 1 / 2 := by
        rw [abs_le]
        exact ⟨by linarith [hn.high], by linarith [hn.low]⟩
      calc |(n : ℚ) * 2 ^ unitExponent v - v|
          = |(n : ℚ) - v / 2 ^ unitExponent v| * 2 ^ unitExponent v := by
            rw [← abs_of_pos hpow, ← abs_mul, abs_of_pos hpow, sub_mul,
              div_mul_cancel₀ _ hpow.ne']
        _ ≤ 1 / 2 * 2 ^ unitExponent v := by gcongr
        _ = 2 ^ (unitExponent v - 1) := by rw [zpow_sub_one₀ (by norm_num)]; ring
        _ ≤ 2 ^ (k - 1) := by gcongr; norm_num
    rcases holds_of_isNearest s hpos hn with ⟨hfinite, hvalue, _⟩ | ⟨_, hlarge⟩
    · refine ⟨hfinite, ?_⟩
      rw [hvalue]
      cases s <;> simp only [withSign]
      · rw [neg_sub_neg, abs_sub_comm]
        exact herror
      · exact herror
    · have hsmall : (n : ℚ) * 2 ^ unitExponent v < 2 ^ 1024 := by
        calc (n : ℚ) * 2 ^ unitExponent v ≤ v + 2 ^ (k - 1) := by linarith [(abs_le.mp herror).2]
          _ < 2 ^ (k + 53) + 2 ^ (k + 53) := by
            refine add_lt_add hv (zpow_lt_zpow_right₀ (by norm_num) (by omega))
          _ = 2 ^ (k + 54) := by
            rw [show k + 54 = k + 53 + 1 by ring, zpow_add_one₀ (by norm_num)]
            ring
          _ ≤ 2 ^ (1024 : Int) := zpow_le_zpow_right₀ (by norm_num) (by omega)
          _ = 2 ^ 1024 := zpow_natCast 2 1024
      exact absurd hlarge (not_le.mpr hsmall)

theorem abs_value_le {b : ℚ} {k : Int} (hx : Rounds v x) (hv : |v| ≤ b) (hk : -1074 ≤ k)
    (hk' : k < 971) (hb : b < 2 ^ (k + 53)) : x.isFinite = true ∧ |value x| ≤ b + 2 ^ (k - 1) := by
  obtain ⟨hfinite, herror⟩ := hx.abs_value_sub_le hk hk' (hv.trans_lt hb)
  refine ⟨hfinite, ?_⟩
  calc |value x| = |v + (value x - v)| := by rw [add_sub_cancel]
    _ ≤ |v| + |value x - v| := abs_add_le _ _
    _ ≤ b + 2 ^ (k - 1) := add_le_add hv herror

end Rounds

end

/-! ### Negation -/

theorem isFinite_neg {x : Float} (hx : x.isFinite = true) : (-x).isFinite = true := by
  rcases eq_zero_or_eq_signed hx with ⟨s, rfl⟩ | ⟨s, m, e, hm, rfl⟩
  · cases s <;> rfl
  · rw [neg_signed]
    exact isFinite_signed _ hm

theorem value_neg {x : Float} (hx : x.isFinite = true) : value (-x) = -value x := by
  rcases eq_zero_or_eq_signed hx with ⟨s, rfl⟩ | ⟨s, m, e, hm, rfl⟩
  · rw [value_signedZero, neg_zero]
    cases s
    · exact value_signedZero .positive
    · exact value_signedZero .negative
  · rw [neg_signed, value_signed, value_signed]
    cases s
    · exact (neg_neg _).symm
    · rfl

/-! ### Sums -/

private theorem log2_shiftLeft {m : Nat} (hm : m ≠ 0) (k : Nat) : (m <<< k).log2 = m.log2 + k := by
  induction k with
  | zero => rfl
  | succ k ih =>
    rw [Nat.shiftLeft_succ, Nat.log2_two_mul (by simpa [Nat.shiftLeft_eq] using hm), ih]
    rfl

/-- The model rounds a mantissa of any size to the nearest. -/
theorem rounds_round (s : Sign) {m : Nat} (hm : 0 < m) (e : Int) :
    Rounds (withSign s (m * 2 ^ e))
      (.ofModel (.pack (UnpackedFloat.round Format.binary64 s m e))) := by
  have hpos : (0 : ℚ) < m * 2 ^ e := by positivity
  obtain ⟨n, hn, hround⟩ : ∃ n, IsNearest ((m * 2 ^ e : ℚ) / 2 ^ unitExponent (m * 2 ^ e)) n
      ∧ UnpackedFloat.round Format.binary64 s m e = carried s n (unitExponent (m * 2 ^ e)) := by
    unfold UnpackedFloat.round decreaseExponent
    dsimp only
    generalize hk : (e - Format.binary64.targetExponent (totalExponent m e)).toNat = k
    apply roundWithAccuracy_eq_carried hpos s
    · have hplace : (m : ℚ) * 2 ^ e / 2 ^ (e - k) = (m <<< k : Nat) := by
        rw [Nat.shiftLeft_eq, zpow_sub₀ (by norm_num), zpow_natCast]
        push_cast
        field_simp
      rw [hplace]
      exact places_ofMantissaAndAccuracy_exact _
    · have htotal : totalExponent (m <<< k) (e - k) = totalExponent m e := by
        simp only [totalExponent, log2_shiftLeft hm.ne']
        push_cast
        ring
      rw [htotal]
      omega
  rw [hround]
  exact .nonzero s hpos hn

theorem rounds_normalize (m e : Int) : Rounds (m * 2 ^ e)
    (.ofModel (.pack (UnpackedFloat.normalize Format.binary64 m e .positive))) := by
  unfold UnpackedFloat.normalize
  rcases lt_trichotomy m 0 with hm | rfl | hm
  · rw [compare_lt_iff_lt.mpr hm]
    have hrounds := rounds_round .negative (m := (-m).toNat) (by omega) e
    have hcast : ((-m).toNat : ℚ) = -m := by
      exact_mod_cast (by omega : ((-m).toNat : Int) = -m)
    simpa only [withSign, hcast, neg_mul, neg_neg] using hrounds
  · rw [Int.cast_zero, zero_mul]
    exact .zero .positive
  · rw [compare_gt_iff_gt.mpr hm]
    have hrounds := rounds_round .positive (m := m.toNat) (by omega) e
    have hcast : (m.toNat : ℚ) = m := by
      exact_mod_cast (by omega : (m.toNat : Int) = m)
    simpa only [withSign, hcast] using hrounds

theorem decreaseExponent_mul (s : Sign) (m : Nat) {e target : Int} (h : target ≤ e) :
    ((s.apply ((decreaseExponent m e target).1 : Int) : Int) : ℚ) * 2 ^ target
      = withSign s (m * 2 ^ e) := by
  obtain ⟨k, rfl⟩ : ∃ k : Nat, e = target + k := ⟨(e - target).toNat, by omega⟩
  have hshift : (target + (k : Int) - target).toNat = k := by omega
  unfold decreaseExponent
  dsimp only
  rw [hshift, Nat.shiftLeft_eq, zpow_add₀ (by norm_num), zpow_natCast]
  cases s <;>
  · simp only [Sign.apply, withSign]
    push_cast
    ring

section

variable {x y : Float}

/-- The model adds finite floats as it rounds their exact sum. -/
theorem rounds_add (hx : x.isFinite = true) (hy : y.isFinite = true) :
    Rounds (value x + value y) (x + y) := by
  have hadd : x + y = .ofModel (.pack (UnpackedFloat.add Format.binary64
    x.toModel.unpack y.toModel.unpack)) := rfl
  rcases eq_zero_or_eq_signed hx with ⟨s, rfl⟩ | ⟨s, m, e, hm, rfl⟩
  · rw [value_signedZero, zero_add]
    rcases eq_zero_or_eq_signed hy with ⟨t, rfl⟩ | ⟨t, n, f, hn, rfl⟩
    · rw [value_signedZero]
      cases s <;> cases t
      · exact .zero .negative
      · exact .zero .positive
      · exact .zero .positive
      · exact .zero .positive
    · rw [hadd, unpack_signedZero, unpack_signed]
      exact Rounds.self hy
  · rcases eq_zero_or_eq_signed hy with ⟨t, rfl⟩ | ⟨t, n, f, hn, rfl⟩
    · rw [value_signedZero, add_zero, hadd, unpack_signedZero, unpack_signed]
      exact Rounds.self hx
    · rw [hadd, unpack_signed, unpack_signed, value_signed, value_signed,
        ← decreaseExponent_mul s m (min_le_left e f), ← decreaseExponent_mul t n (min_le_right e f),
        ← add_mul, ← Int.cast_add]
      exact rounds_normalize _ _

theorem rounds_sub (hx : x.isFinite = true) (hy : y.isFinite = true) :
    Rounds (value x - value y) (x - y) := by
  have hsub : x - y = .ofModel (.pack (UnpackedFloat.sub Format.binary64
    x.toModel.unpack y.toModel.unpack)) := rfl
  rcases eq_zero_or_eq_signed hx with ⟨s, rfl⟩ | ⟨s, m, e, hm, rfl⟩
  · rw [value_signedZero, zero_sub]
    rcases eq_zero_or_eq_signed hy with ⟨t, rfl⟩ | ⟨t, n, f, hn, rfl⟩
    · rw [value_signedZero]
      cases s <;> cases t
      · exact .zero .positive
      · exact .zero .negative
      · exact .zero .positive
      · exact .zero .positive
    · rw [hsub, unpack_signedZero, unpack_signed, ← value_neg hy, neg_signed]
      exact Rounds.self (isFinite_signed (-t) hn)
  · rcases eq_zero_or_eq_signed hy with ⟨t, rfl⟩ | ⟨t, n, f, hn, rfl⟩
    · rw [value_signedZero, sub_zero, hsub, unpack_signedZero, unpack_signed]
      exact Rounds.self hx
    · rw [hsub, unpack_signed, unpack_signed, value_signed, value_signed,
        ← decreaseExponent_mul s m (min_le_left e f), ← decreaseExponent_mul t n (min_le_right e f),
        ← sub_mul, ← Int.cast_sub]
      exact rounds_normalize _ _

theorem unpack_infinite (s : Sign) : (infinite s).toModel.unpack = .infinity s := by
  cases s <;> rfl

theorem lt_infinite (hx : x.isFinite = true) : x < infinite .positive := by
  rw [lt_iff_eq_some, unpack_infinite]
  rcases eq_zero_or_eq_signed hx with ⟨s, rfl⟩ | ⟨s, m, e, hm, rfl⟩
  · rw [unpack_signedZero]
    rfl
  · rw [unpack_signed]
    rfl

theorem infinite_lt (hx : x.isFinite = true) : infinite .negative < x := by
  rw [lt_iff_eq_some, unpack_infinite]
  rcases eq_zero_or_eq_signed hx with ⟨s, rfl⟩ | ⟨s, m, e, hm, rfl⟩
  · rw [unpack_signedZero]
    rfl
  · rw [unpack_signed]
    rfl

theorem infinite_add (s : Sign) (hx : x.isFinite = true) : infinite s + x = infinite s := by
  change Float.ofModel (.pack (UnpackedFloat.add Format.binary64
    (infinite s).toModel.unpack x.toModel.unpack)) = _
  rw [unpack_infinite]
  rcases eq_zero_or_eq_signed hx with ⟨t, rfl⟩ | ⟨t, m, e, hm, rfl⟩
  · rw [unpack_signedZero]
    rfl
  · rw [unpack_signed]
    rfl

theorem infinite_sub (s : Sign) (hx : x.isFinite = true) : infinite s - x = infinite s := by
  change Float.ofModel (.pack (UnpackedFloat.sub Format.binary64
    (infinite s).toModel.unpack x.toModel.unpack)) = _
  rw [unpack_infinite]
  rcases eq_zero_or_eq_signed hx with ⟨t, rfl⟩ | ⟨t, m, e, hm, rfl⟩
  · rw [unpack_signedZero]
    rfl
  · rw [unpack_signed]
    rfl

theorem rounds_mul {m : Nat} {e : Int} (hx : x.isFinite = true) (h : Canonical m e)
    (hfull : 2 ^ 52 ≤ m) :
    Rounds (value x * value (signed .positive h)) (x * signed .positive h) := by
  have hmul : x * signed .positive h = .ofModel (.pack (UnpackedFloat.mul Format.binary64
    x.toModel.unpack (signed .positive h).toModel.unpack)) := rfl
  rcases eq_zero_or_eq_signed hx with ⟨s, rfl⟩ | ⟨s, n, f, hn, rfl⟩
  · rw [value_signedZero, zero_mul, hmul, unpack_signedZero, unpack_signed]
    exact .zero _
  · have hpos : (0 : ℚ) < n * 2 ^ f * (m * 2 ^ e) := mul_pos hn.magnitude_pos h.magnitude_pos
    have hfine : f + e ≤ Format.binary64.targetExponent (totalExponent (n * m) (f + e)) := by
      rw [Nat.mul_comm, Int.add_comm]
      exact mul_fine hfull hn.pos
    obtain ⟨k, hk, hround⟩ :=
      roundWithAccuracy_eq_carried hpos (s * .positive) (places_mul rfl) hfine
    have hvalue : value (signed s hn) * value (signed .positive h)
        = withSign (s * .positive) (n * 2 ^ f * (m * 2 ^ e)) := by
      rw [value_signed, value_signed]
      cases s
      · exact neg_mul _ _
      · rfl
    rw [hmul, unpack_signed, unpack_signed, hvalue]
    change Rounds _ (.ofModel (.pack (roundWithAccuracy Format.binary64 _ _ _ .exact)))
    rw [hround]
    exact .nonzero _ hpos hk

end

end MapMarkup.Decimal
