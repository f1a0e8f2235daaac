import MapMarkup.Proofs.Decimal.Value

/-!
# Dividing by more gives no more

A quotient of floats is the exact quotient rounded to a whole number of its units, or infinite where
there is no float for it (`div_signed_eq_rounded`). Rounding keeps the order of numbers
(`rounded_mono`), so that a float divided by a greater one does not grow beyond a bound that it kept
before (`div_le_of_div_le`). The bound has to be at least zero, because below zero a quotient grows
with its divisor.
-/

namespace MapMarkup.Decimal

open Float.Model Float.Model.UnpackedFloat

/-! ### Packing a rounded mantissa -/

section

variable (s : Sign) {m n : Nat} {e : Int}

/-- The float is the number, or infinite because the number is too large for a float. -/
def Holds (s : Sign) (x : Float) (v : ℚ) : Prop :=
  x.isFinite = true ∧ value x = withSign s v ∧ v < 2 ^ 1024 ∨ x = infinite s ∧ 2 ^ 1024 ≤ v

theorem holds_pack (hpos : 0 < m) (hlt : m < 2 ^ 53) (hleast : -1074 ≤ e)
    (hfull : e = -1074 ∨ 2 ^ 52 ≤ m) :
    Holds s (.ofModel (.pack (.finite s m e hpos))) (m * 2 ^ e) := by
  by_cases hfits : e ≤ 971
  · have hcanonical : Canonical m e := ⟨hpos, hlt, hleast, hfits, hfull.symm⟩
    have hm : (m : ℚ) < 2 ^ 53 := by exact_mod_cast hlt
    refine .inl ⟨isFinite_signed s hcanonical, value_signed s hcanonical, ?_⟩
    calc (m : ℚ) * 2 ^ e < 2 ^ 53 * 2 ^ e := by gcongr
      _ ≤ 2 ^ 53 * 2 ^ (971 : Int) := by gcongr; norm_num
      _ = 2 ^ 1024 := by rw [← zpow_natCast, ← zpow_natCast, ← zpow_add₀ (by norm_num)]; norm_num
  · have hm : (2 : ℚ) ^ 52 ≤ m := by exact_mod_cast hfull.resolve_left (by omega)
    have hbiased : 2 ^ 11 ≤ (e + (Format.binary64.exponentBias : Int)
        + (Format.binary64.mantissaBitsWithoutImplicit : Int)).toNat + 1 := by
      simp only [Format.exponentBias]
      norm_num
      omega
    have hpack : UnpackedFloat.pack Format.binary64 (.finite s m e hpos)
        = UnpackedFloat.pack Format.binary64 (.infinity s) := by
      unfold UnpackedFloat.pack
      dsimp only
      rw [if_pos hbiased]
    refine .inr ⟨?_, ?_⟩
    · unfold infinite Float.Model.pack
      simp only [hpack]
    · calc (2 : ℚ) ^ 1024 = 2 ^ 52 * 2 ^ (972 : Int) := by
            rw [← zpow_natCast, ← zpow_natCast, ← zpow_add₀ (by norm_num)]
            norm_num
        _ ≤ 2 ^ 52 * 2 ^ e := by gcongr <;> [norm_num; omega]
        _ ≤ m * 2 ^ e := by gcongr

def rounded (s : Sign) (n : Nat) (e : Int) : Float :=
  .ofModel (.pack (carried s n e))

theorem holds_rounded (hn : n ≤ 2 ^ 53) (hleast : -1074 ≤ e) (hfull : e = -1074 ∨ 2 ^ 52 ≤ n) :
    Holds s (rounded s n e) (n * 2 ^ e) := by
  unfold rounded
  rcases Nat.eq_zero_or_pos n with rfl | hpos
  · rw [carried_zero, Nat.cast_zero, zero_mul]
    refine .inl ⟨by cases s <;> rfl, (value_signedZero s).trans ?_, by norm_num⟩
    cases s <;> simp [withSign]
  · rcases hn.lt_or_eq with hlt | rfl
    · rw [carried_of_lt hpos hlt]
      exact holds_pack s hpos hlt hleast hfull
    · have hcarry := holds_pack s (m := 2 ^ 52) (e := e + 1) (by decide) (by decide) (by omega)
        (.inr le_rfl)
      rw [carried_full]
      convert hcarry using 1
      rw [zpow_add_one₀ (by norm_num)]
      push_cast
      ring

end

/-! ### Rounding keeps the order -/

theorem unitExponent_mono {v v' : ℚ} (hv : 0 < v) (h : v ≤ v') :
    unitExponent v ≤ unitExponent v' := by
  have hlog : Int.log 2 v ≤ Int.log 2 v' := Int.log_mono_right hv h
  unfold unitExponent
  omega

theorem rounded_mono {v v' : ℚ} {n n' : Nat} (hv : 0 < v) (h : v ≤ v')
    (hn : IsNearest (v / 2 ^ unitExponent v) n) (hn' : IsNearest (v' / 2 ^ unitExponent v') n') :
    (n : ℚ) * 2 ^ unitExponent v ≤ n' * 2 ^ unitExponent v' := by
  rcases (unitExponent_mono hv h).lt_or_eq with hlt | heq
  · have hleast : -1074 ≤ unitExponent v := le_max_right _ _
    have hsmall : (n : ℚ) ≤ 2 ^ 53 := by
      exact_mod_cast hn.le_of_lt (k := 2 ^ 53) (by exact_mod_cast (div_unitExponent_bounds hv).1)
    have hlarge : (2 : ℚ) ^ 52 ≤ n' := by
      have hfull := (div_unitExponent_bounds (hv.trans_le h)).2.resolve_left (by omega)
      exact_mod_cast hn'.le_of_le (k := 2 ^ 52) (by exact_mod_cast hfull)
    calc (n : ℚ) * 2 ^ unitExponent v ≤ 2 ^ 53 * 2 ^ unitExponent v := by gcongr
      _ = 2 ^ 52 * 2 ^ (unitExponent v + 1) := by rw [zpow_add_one₀ (by norm_num)]; ring
      _ ≤ 2 ^ 52 * 2 ^ unitExponent v' := by gcongr <;> [norm_num; omega]
      _ ≤ n' * 2 ^ unitExponent v' := by gcongr
  · rw [heq] at hn ⊢
    have hnn : n ≤ n' := hn.mono hn' (by gcongr)
    gcongr

/-! ### Quotients -/

section

variable {m m₁ m₂ : Nat} {e e₁ e₂ : Int}

/-- The model divides by a positive float as it rounds the exact quotient. -/
theorem div_signed_eq_rounded (s : Sign) (h₁ : Canonical m₁ e₁) (h₂ : Canonical m₂ e₂) {v : ℚ}
    (hv : v = m₁ * 2 ^ e₁ / (m₂ * 2 ^ e₂)) : ∃ n, IsNearest (v / 2 ^ unitExponent v) n
      ∧ signed s h₁ / signed .positive h₂ = rounded s n (unitExponent v) := by
  have hpos : 0 < v := hv ▸ div_pos h₁.magnitude_pos h₂.magnitude_pos
  obtain ⟨k, f, acc, hdiv, hplaces, hfine⟩ := exists_div_eq_round s h₁.pos h₂.pos hv
  obtain ⟨n, hn, hround⟩ := roundWithAccuracy_eq_carried hpos s hplaces hfine
  refine ⟨n, hn, ?_⟩
  change Float.ofModel (.pack (UnpackedFloat.div Format.binary64
    (signed s h₁).toModel.unpack (signed .positive h₂).toModel.unpack)) = _
  rw [unpack_signed, unpack_signed, hdiv, hround]
  rfl

theorem holds_of_isNearest (s : Sign) {v : ℚ} (hv : 0 < v) {n : Nat}
    (hn : IsNearest (v / 2 ^ unitExponent v) n) :
    Holds s (rounded s n (unitExponent v)) (n * 2 ^ unitExponent v) := by
  obtain ⟨hlt, hfull⟩ := div_unitExponent_bounds hv
  refine holds_rounded s (hn.le_of_lt (by exact_mod_cast hlt)) (le_max_right _ _) ?_
  exact hfull.imp_right fun hfull => hn.le_of_le (by exact_mod_cast hfull)

end

theorem le_infinite {x : Float} (hx : x.isNaN = false) : x ≤ infinite .positive := by
  rw [le_iff_rank_le hx rfl]
  change rank x.toModel.unpack ≤ toLex (2, toLex (0, 0))
  rcases x.toModel.unpack with (_ | _) | _ | (_ | _) | (_ | _) <;>
    simp [rank, Prod.Lex.toLex_le_toLex]

section

variable {x y : Float} {v w : ℚ}

theorem Holds.le (hx : Holds .positive x v) (hy : Holds .positive y w) (h : v ≤ w) : x ≤ y := by
  rcases hx with ⟨hfinite, hvalue, _⟩ | ⟨rfl, hlarge⟩
  · rcases hy with ⟨hfinite', hvalue', _⟩ | ⟨rfl, _⟩
    · rw [le_iff_value_le hfinite hfinite', hvalue, hvalue']
      exact h
    · exact le_infinite (isNaN_of_isFinite hfinite)
  · rcases hy with ⟨_, _, hsmall⟩ | ⟨rfl, _⟩
    · exact absurd (hlarge.trans h) (not_le.mpr hsmall)
    · exact le_infinite rfl

theorem Holds.nonneg (hx : Holds .positive x v) (hv : 0 ≤ v) : 0 ≤ x := by
  have hzero : Holds .positive 0 0 := .inl ⟨by decide, value_zero, by positivity⟩
  exact hzero.le hx hv

theorem Holds.nonpos (hx : Holds .negative x v) (hv : 0 ≤ v) : x ≤ 0 := by
  rcases hx with ⟨hfinite, hvalue, _⟩ | ⟨rfl, _⟩
  · rw [le_iff_value_le hfinite (by decide), hvalue, value_zero]
    exact neg_nonpos.mpr hv
  · decide

theorem div_positive_eq_self (hx : x.isFinite = false ∨ ∃ s, x = signedZero s) {m : Nat} {e : Int}
    (h : Canonical m e) : x / signed .positive h = x := by
  change Float.ofModel (.pack (UnpackedFloat.div Format.binary64
    x.toModel.unpack (signed .positive h).toModel.unpack)) = _
  rw [unpack_signed]
  rcases hx with hx | ⟨s, rfl⟩
  · rcases eq_infinite_or_eq_notANumber hx with ⟨s, rfl⟩ | rfl
    · cases s <;> rfl
    · rfl
  · cases s <;> rfl

end

/-- A quotient within a bound that is not negative stays within it when the divisor grows. -/
theorem div_le_of_div_le {x r r' w : Float} (hr : 0 < r) (hrr : r ≤ r')
    (hfinite : r'.isFinite = true) (hw : 0 ≤ w) (h : x / r ≤ w) : x / r' ≤ w := by
  have hfinite' := isFinite_of_between (by decide) hfinite (float_le_of_lt hr) hrr
  obtain ⟨m₁, e₁, h₁, rfl⟩ := exists_signed_of_pos hr hfinite'
  obtain ⟨m₂, e₂, h₂, rfl⟩ := exists_signed_of_pos (float_lt_of_lt_of_le hr hrr) hfinite
  rw [le_iff_value_le hfinite' hfinite, value_signed, value_signed] at hrr
  by_cases hx : x.isFinite = false ∨ ∃ s, x = signedZero s
  · rw [div_positive_eq_self hx] at h ⊢
    exact h
  · rw [not_or, Bool.not_eq_false] at hx
    obtain ⟨s, m, e, hm, rfl⟩ := (eq_zero_or_eq_signed hx.1).resolve_left hx.2
    have hpos := hm.magnitude_pos
    have hpos₁ := h₁.magnitude_pos
    have hpos₂ := h₂.magnitude_pos
    obtain ⟨n, hn, hquotient⟩ := div_signed_eq_rounded s hm h₂ rfl
    have hholds := holds_of_isNearest s (by positivity) hn
    rw [hquotient]
    cases s
    · exact float_le_trans (hholds.nonpos (by positivity)) hw
    · obtain ⟨k, hk, hquotient'⟩ := div_signed_eq_rounded .positive hm h₁ rfl
      rw [hquotient'] at h
      refine float_le_trans (hholds.le (holds_of_isNearest .positive (by positivity) hk) ?_) h
      refine rounded_mono (by positivity) ?_ hn hk
      simp only [withSign] at hrr
      gcongr

/-! ### Naturals -/

theorem mul_eq_carried {m₁ m₂ : Nat} {e₁ e₂ : Int} (h₁ : 0 < m₁) (h₂ : 0 < m₂) {v : ℚ}
    (hv : v = (m₁ * 2 ^ e₁) * (m₂ * 2 ^ e₂)) (hfull : 2 ^ 52 ≤ m₁) :
    ∃ n, IsNearest (v / 2 ^ unitExponent v) n
      ∧ UnpackedFloat.mul Format.binary64 (.finite .positive m₁ e₁ h₁) (.finite .positive m₂ e₂ h₂)
        = carried .positive n (unitExponent v) := by
  have hpos : 0 < v := by rw [hv]; positivity
  exact roundWithAccuracy_eq_carried hpos .positive (places_mul hv) (mul_fine hfull h₂)

/-- A natural of more than 53 bits becomes the nearest float, as any other number does. -/
theorem ofNat_eq_rounded {n : Nat} (h : 2 ^ 53 ≤ n) :
    ∃ k, IsNearest ((n : ℚ) / 2 ^ unitExponent n) k
      ∧ Float.ofNat n = rounded .positive k (unitExponent n) := by
  have hpos : 0 < n := by omega
  have hshift : n <<< 53 = n * 2 ^ 53 := Nat.shiftLeft_eq ..
  have hexact : (n : ℚ)
      = ((n <<< 53 : Nat) * 2 ^ (-53 : Int)) * ((10 ^ 0 : Nat) * 2 ^ (0 : Int)) := by
    rw [hshift]
    push_cast
    field_simp
    norm_num
  obtain ⟨k, hk, hmul⟩ := mul_eq_carried (by omega) (by decide) hexact (by omega)
  refine ⟨k, hk, ?_⟩
  have hscientific : UnpackedFloat.ofScientific Format.binary64 n 0
      = carried .positive k (unitExponent n) := by
    unfold UnpackedFloat.ofScientific
    rw [dif_neg hpos.ne', if_neg (by norm_num), if_neg (by norm_num), if_pos le_rfl]
    exact hmul
  change Float.ofScientific n false 0 = _
  unfold Float.ofScientific
  rw [dif_neg (by omega)]
  change Float.ofModel (.pack (UnpackedFloat.ofScientific Format.binary64 n 0)) = _
  rw [hscientific]
  rfl

theorem ofNat_nonneg (n : Nat) : 0 ≤ Float.ofNat n := by
  rcases Nat.eq_zero_or_pos n with rfl | hpos
  · decide
  · by_cases hlt : n < 2 ^ 53
    · rw [ofNat_eq_signed hpos hlt, le_iff_value_le (by decide) (isFinite_signed ..), value_zero,
        value_signed]
      exact (canonical_shiftLeft hpos hlt).magnitude_pos.le
    · obtain ⟨k, hk, hrounded⟩ := ofNat_eq_rounded (not_lt.mp hlt)
      rw [hrounded]
      exact (holds_of_isNearest .positive (by exact_mod_cast hpos) hk).nonneg (by positivity)

end MapMarkup.Decimal
