import MapMarkup.Decimal.Reading
import MapMarkup.Proofs.Decimal.Packing

/-!
# Reading a decimal is rounding it

A product and a quotient of floats that the model computes are rounded from their exact values
(`mul_eq`, `div_eq`), so the float that a scientific notation stands for is the one its value rounds
to (`ofScientific_eq`). Small notations are computed by one operation on two floats that are exact,
all others by one operation on unbounded mantissas.
-/

namespace MapMarkup.Decimal

open Float.Model Float.Model.UnpackedFloat

/-! ### Powers as quotients of naturals -/

theorem twos_div_twos_neg (e : Int) : (twos e : ℚ) / twos (-e) = 2 ^ e := by
  unfold twos
  obtain ⟨n, rfl | rfl⟩ := e.eq_nat_or_neg
  · simp
  · simp

theorem tens_div_tens_neg (e : Int) : (tens e : ℚ) / tens (-e) = 10 ^ e := by
  unfold tens
  obtain ⟨n, rfl | rfl⟩ := e.eq_nat_or_neg
  · simp
  · simp

theorem twos_pos (e : Int) : 0 < twos e := Nat.pow_pos (by decide)

theorem tens_pos (e : Int) : 0 < tens e := Nat.pow_pos (by decide)

/-! ### Products and quotients -/

/-- The product of two mantissas is exact. -/
theorem places_mul {v : ℚ} {m₁ m₂ : Nat} {e₁ e₂ : Int}
    (hv : v = (m₁ * 2 ^ e₁) * (m₂ * 2 ^ e₂)) :
    Places (ExtendedMantissa.ofMantissaAndAccuracy (m₁ * m₂) .exact) (v / 2 ^ (e₁ + e₂)) := by
  have hplace : v / 2 ^ (e₁ + e₂) = (m₁ * m₂ : Nat) := by
    rw [hv, zpow_add₀ (by norm_num)]
    push_cast
    field_simp
  rw [hplace]
  exact places_ofMantissaAndAccuracy_exact _

theorem mul_eq {v : ℚ} {m : Nat} {e : Int} (h : RoundsTo v m e) {m₁ m₂ : Nat} {e₁ e₂ : Int}
    (h₁ : 0 < m₁) (h₂ : 0 < m₂) (hv : v = (m₁ * 2 ^ e₁) * (m₂ * 2 ^ e₂))
    (hfine : e₁ + e₂ ≤ Format.binary64.targetExponent (totalExponent (m₁ * m₂) (e₁ + e₂))) :
    UnpackedFloat.mul Format.binary64 (.finite .positive m₁ e₁ h₁) (.finite .positive m₂ e₂ h₂)
      = .finite .positive m e h.canonical.pos :=
  roundWithAccuracy_eq h _ (places_mul hv) hfine

/-- A quotient with remainder, its remainder turned into residual bits. -/
theorem places_accuracyOfFraction (n d : Nat) (hd : 0 < d) :
    Places (ExtendedMantissa.ofMantissaAndAccuracy (n / d) (accuracyOfFraction (n % d) d))
      ((n : ℚ) / d) := by
  have hdq : (0 : ℚ) < d := by exact_mod_cast hd
  have hr : n % d < d := Nat.mod_lt n hd
  have hsplit : (n : ℚ) / d = (n / d : Nat) + (n % d : Nat) / d := by
    have : (n : ℚ) = d * (n / d : Nat) + (n % d : Nat) := by
      exact_mod_cast (Nat.div_add_mod n d).symm
    field_simp
    linarith
  rw [hsplit]
  generalize n / d = k
  generalize n % d = r at hr
  unfold accuracyOfFraction
  have hone : (r : ℚ) / d < 1 := by
    rw [div_lt_one hdq]
    exact_mod_cast hr
  split
  case isTrue hzero =>
    simp [Places, ExtendedMantissa.ofMantissaAndAccuracy, hzero]
  case isFalse hzero =>
    have hpos : (0 : ℚ) < r / d := by
      have : (0 : ℚ) < r := by exact_mod_cast Nat.pos_of_ne_zero hzero
      positivity
    rcases hcompare : compare (2 * r) d with _ | _ | _ <;>
      simp only [Places, ExtendedMantissa.ofMantissaAndAccuracy]
    · have hlt : (2 * r : ℚ) < d := by exact_mod_cast Nat.compare_eq_lt.mp hcompare
      have : (r : ℚ) / d < 1 / 2 := by
        rw [div_lt_div_iff₀ hdq (by norm_num)]
        linarith
      constructor <;> linarith
    · have heq : (2 * r : ℚ) = d := by exact_mod_cast Nat.compare_eq_eq.mp hcompare
      have : (r : ℚ) / d = 1 / 2 := by
        rw [div_eq_div_iff hdq.ne' (by norm_num)]
        linarith
      linarith
    · have hgt : (d : ℚ) < 2 * r := by exact_mod_cast Nat.compare_eq_gt.mp hcompare
      have : 1 / 2 < (r : ℚ) / d := by
        rw [div_lt_div_iff₀ (by norm_num) hdq]
        linarith
      constructor <;> linarith

/-- Below the quotient of two mantissas there are enough bits for rounding it. -/
theorem divCore_fine {m₁ m₂ : Nat} (h₁ : 0 < m₁) (h₂ : 0 < m₂) {e₁ e₂ f : Int} {n : Nat}
    (hn : e₁ - e₂ - f = n)
    (hf : f ≤ Format.binary64.targetExponent (totalExponent m₁ e₁ - totalExponent m₂ e₂)) :
    f ≤ Format.binary64.targetExponent (totalExponent (m₁ <<< n / m₂) f) := by
  simp only [Format.targetExponent, totalExponent, Format.mantissaBits, Format.minExponent] at hf ⊢
  norm_num at hf ⊢
  by_cases hleast : f ≤ -1074
  · exact .inr hleast
  · left
    have hbits : 52 + (m₂.log2 + 1) ≤ m₁.log2 + n := by omega
    have hquotient : 2 ^ 52 ≤ m₁ <<< n / m₂ := by
      rw [Nat.le_div_iff_mul_le h₂, Nat.shiftLeft_eq]
      calc 2 ^ 52 * m₂ ≤ 2 ^ 52 * 2 ^ (m₂.log2 + 1) := Nat.mul_le_mul_left _ Nat.lt_log2_self.le
        _ = 2 ^ (52 + (m₂.log2 + 1)) := (pow_add ..).symm
        _ ≤ 2 ^ (m₁.log2 + n) := Nat.pow_le_pow_right (by decide) hbits
        _ = 2 ^ m₁.log2 * 2 ^ n := pow_add ..
        _ ≤ m₁ * 2 ^ n := Nat.mul_le_mul_right _ (Nat.log2_self_le h₁.ne')
    have := (Nat.le_log2 (by omega : m₁ <<< n / m₂ ≠ 0)).mpr hquotient
    omega

/-- The model rounds a quotient from its exact value, given by a mantissa with residual bits. -/
theorem exists_div_eq_round {v : ℚ} (s : Sign) {m₁ m₂ : Nat} {e₁ e₂ : Int} (h₁ : 0 < m₁)
    (h₂ : 0 < m₂) (hv : v = (m₁ * 2 ^ e₁) / (m₂ * 2 ^ e₂)) :
    ∃ k f acc, UnpackedFloat.div Format.binary64 (.finite s m₁ e₁ h₁) (.finite .positive m₂ e₂ h₂)
        = roundWithAccuracy Format.binary64 s k f acc
      ∧ Places (ExtendedMantissa.ofMantissaAndAccuracy k acc) (v / 2 ^ f)
      ∧ f ≤ Format.binary64.targetExponent (totalExponent k f) := by
  obtain ⟨f, hf⟩ : ∃ f, f = min (e₁ - e₂) (Format.binary64.targetExponent
    (totalExponent m₁ e₁ - totalExponent m₂ e₂)) := ⟨_, rfl⟩
  obtain ⟨n, hn⟩ : ∃ n : Nat, e₁ - e₂ - f = n := ⟨(e₁ - e₂ - f).toNat, by omega⟩
  have hplace : v / 2 ^ f = ((m₁ <<< n : Nat) : ℚ) / m₂ := by
    have hpow : (2 : ℚ) ^ e₁ = 2 ^ n * (2 ^ e₂ * 2 ^ f) := by
      rw [← zpow_natCast, ← hn, ← zpow_add₀ (by norm_num), ← zpow_add₀ (by norm_num)]
      congr 1
      ring
    rw [hv, Nat.shiftLeft_eq, hpow]
    push_cast
    field_simp
  refine ⟨m₁ <<< n / m₂, f, accuracyOfFraction (m₁ <<< n % m₂) m₂, ?_, ?_, ?_⟩
  · have hsign : s / .positive = s := by cases s <;> rfl
    change roundWithAccuracy Format.binary64 (s / .positive)
      (divCore Format.binary64 m₁ e₁ m₂ e₂).1 (divCore Format.binary64 m₁ e₁ m₂ e₂).2.1
      (divCore Format.binary64 m₁ e₁ m₂ e₂).2.2 = _
    unfold divCore
    dsimp only
    rw [hsign, ← hf, hn, Int.toNat_natCast]
  · rw [hplace]
    exact places_accuracyOfFraction _ _ h₂
  · exact divCore_fine h₁ h₂ hn (hf ▸ min_le_right _ _)

theorem div_eq {v : ℚ} {m : Nat} {e : Int} (h : RoundsTo v m e) {m₁ m₂ : Nat} {e₁ e₂ : Int}
    (h₁ : 0 < m₁) (h₂ : 0 < m₂) (hv : v = (m₁ * 2 ^ e₁) / (m₂ * 2 ^ e₂)) :
    UnpackedFloat.div Format.binary64 (.finite .positive m₁ e₁ h₁) (.finite .positive m₂ e₂ h₂)
      = .finite .positive m e h.canonical.pos := by
  obtain ⟨k, f, acc, hdiv, hplaces, hfine⟩ := exists_div_eq_round .positive h₁ h₂ hv
  rw [hdiv]
  exact roundWithAccuracy_eq h .positive hplaces hfine

/-! ### Naturals and powers of ten as floats -/

theorem canonical_shiftLeft {n : Nat} (hpos : 0 < n) (hlt : n < 2 ^ 53) :
    Canonical (n <<< (52 - n.log2)) ((n.log2 : Int) - 52) := by
  have hlog : n.log2 ≤ 52 := by
    have := (Nat.log2_lt hpos.ne').mpr hlt
    omega
  have hshift : n <<< (52 - n.log2) = n * 2 ^ (52 - n.log2) := Nat.shiftLeft_eq ..
  have hlow : 2 ^ 52 ≤ n <<< (52 - n.log2) := by
    rw [hshift]
    calc 2 ^ 52 = 2 ^ n.log2 * 2 ^ (52 - n.log2) := by rw [← pow_add]; congr 1; omega
      _ ≤ n * 2 ^ (52 - n.log2) := Nat.mul_le_mul_right _ (Nat.log2_self_le hpos.ne')
  have hhigh : n <<< (52 - n.log2) < 2 ^ 53 := by
    rw [hshift]
    calc n * 2 ^ (52 - n.log2) < 2 ^ (n.log2 + 1) * 2 ^ (52 - n.log2) :=
        Nat.mul_lt_mul_of_pos_right Nat.lt_log2_self (Nat.two_pow_pos _)
      _ = 2 ^ 53 := by rw [← pow_add]; congr 1; omega
  exact ⟨by omega, hhigh, by omega, by omega, .inl hlow⟩

theorem shiftLeft_mul_two_zpow {n : Nat} (hpos : 0 < n) (hlt : n < 2 ^ 53) :
    ((n <<< (52 - n.log2) : Nat) : ℚ) * 2 ^ ((n.log2 : Int) - 52) = n := by
  have hlog : n.log2 ≤ 52 := by
    have := (Nat.log2_lt hpos.ne').mpr hlt
    omega
  rw [Nat.shiftLeft_eq, Nat.cast_mul, Nat.cast_pow, Nat.cast_ofNat, mul_assoc, ← zpow_natCast,
    ← zpow_add₀ (by norm_num), show ((52 - n.log2 : Nat) : Int) + (n.log2 - 52) = 0 by omega,
    zpow_zero, mul_one]

private theorem toFloat_eq_signed {n : Nat} (hpos : 0 < n) (hlt : n < 2 ^ 53) :
    n.toUInt64.toFloat = signed .positive (canonical_shiftLeft hpos hlt) := by
  have hcanonical := canonical_shiftLeft hpos hlt
  have hlog : n.log2 ≤ 52 := by
    have := (Nat.log2_lt hpos.ne').mpr hlt
    omega
  have htoNat : n.toUInt64.toNat = n := by
    rw [Nat.toUInt64_eq, UInt64.toNat_ofNat', Nat.mod_eq_of_lt (by omega)]
  have hround : UnpackedFloat.round Format.binary64 .positive n 0
      = .finite .positive (n <<< (52 - n.log2)) ((n.log2 : Int) - 52) hcanonical.pos := by
    have htarget : Format.binary64.targetExponent (totalExponent n 0) = (n.log2 : Int) - 52 := by
      simp [Format.targetExponent, totalExponent, Format.mantissaBits, Format.minExponent]
      omega
    unfold UnpackedFloat.round decreaseExponent
    dsimp only
    rw [htarget, show ((0 : Int) - (n.log2 - 52)).toNat = 52 - n.log2 by omega,
      show (0 : Int) - (52 - n.log2 : Nat) = n.log2 - 52 by omega]
    apply roundWithAccuracy_eq (RoundsTo.self hcanonical)
    · rw [mul_div_assoc, div_self (by positivity), mul_one]
      exact places_ofMantissaAndAccuracy_exact _
    · have hfull : 52 ≤ (n <<< (52 - n.log2)).log2 :=
        (Nat.le_log2 hcanonical.pos.ne').mpr (hcanonical.full.resolve_right (by omega))
      simp only [Format.targetExponent, totalExponent, Format.mantissaBits, Format.minExponent]
      norm_num
      omega
  change Float.ofModel
    (.pack (UnpackedFloat.normalize Format.binary64 (n.toUInt64.toNat : Int) 0 .positive)) = _
  rw [htoNat]
  have hcompare : compare (n : Int) 0 = .gt := by
    rw [Int.compare_eq_gt]
    omega
  unfold UnpackedFloat.normalize
  rw [hcompare]
  dsimp only
  rw [Int.toNat_natCast, hround]
  rfl

def IsPowerOfTen (x : Float) (k : Nat) : Prop :=
  x.isFinite = true ∧ isNegative x = false ∧ (Binary.ofFloat x).mantissa ≠ 0
    ∧ (Binary.ofFloat x).mantissa * twos (Binary.ofFloat x).exponent
      = Nat.pow 10 k * twos (-(Binary.ofFloat x).exponent)

instance (x : Float) (k : Nat) : Decidable (IsPowerOfTen x k) :=
  inferInstanceAs (Decidable (_ ∧ _))

theorem mantissa_signedZero (s : Sign) : (Binary.ofFloat (signedZero s)).mantissa = 0 := by
  cases s <;> rfl

private theorem isPowerOfTen_table : ∀ k : Fin 23,
    IsPowerOfTen (Float.exactlyRepresentablePowersOfTen[k]) k := by
  decide +kernel

theorem IsPowerOfTen.eq_signed {x : Float} {k : Nat} (h : IsPowerOfTen x k) :
    ∃ m e, ∃ hc : Canonical m e, x = signed .positive hc ∧ (m : ℚ) * 2 ^ e = 10 ^ k := by
  obtain ⟨hfinite, hsign, hmantissa, hvalue⟩ := h
  rcases eq_zero_or_eq_signed hfinite with ⟨s, rfl⟩ | ⟨s, m, e, hc, rfl⟩
  · exact absurd (mantissa_signedZero s) hmantissa
  · rw [isNegative_signed] at hsign
    rw [binary_ofFloat_signed, Nat.pow_eq] at hvalue
    have hpositive : s = .positive := by
      cases s with
      | negative => exact absurd hsign (by decide)
      | positive => rfl
    refine ⟨m, e, hc, by rw [hpositive], ?_⟩
    have htwos : (0 : ℚ) < twos (-e) := by exact_mod_cast twos_pos (-e)
    rw [← twos_div_twos_neg, ← mul_div_assoc, div_eq_iff htwos.ne']
    exact_mod_cast hvalue

/-! ### Scientific notation -/

theorem zpow_natAbs_of_neg {e : Int} (he : e < 0) : (10 : ℚ) ^ e = 1 / 10 ^ e.natAbs := by
  rw [← zpow_natCast, one_div, ← zpow_neg]
  congr 1
  omega

theorem zpow_natAbs_of_nonneg {e : Int} (he : 0 ≤ e) : (10 : ℚ) ^ e = 10 ^ e.natAbs := by
  rw [← zpow_natCast]
  congr 1
  omega

theorem mul_fine {m₁ m₂ : Nat} {e₁ e₂ : Int} (h₁ : 2 ^ 52 ≤ m₁) (h₂ : 0 < m₂) :
    e₁ + e₂ ≤ Format.binary64.targetExponent (totalExponent (m₁ * m₂) (e₁ + e₂)) := by
  have hproduct : 2 ^ 52 ≤ m₁ * m₂ := le_trans h₁ (Nat.le_mul_of_pos_right m₁ h₂)
  have := (Nat.le_log2 (by omega : m₁ * m₂ ≠ 0)).mpr hproduct
  simp only [Format.targetExponent, totalExponent, Format.mantissaBits, Format.minExponent]
  norm_num
  omega

private theorem mul_signed {v : ℚ} {m : Nat} {e : Int} (h : RoundsTo v m e) {m₁ m₂ : Nat}
    {e₁ e₂ : Int} (h₁ : Canonical m₁ e₁) (h₂ : Canonical m₂ e₂) (hfull : 2 ^ 52 ≤ m₁)
    (hv : v = (m₁ * 2 ^ e₁) * (m₂ * 2 ^ e₂)) :
    signed .positive h₁ * signed .positive h₂ = signed .positive h.canonical := by
  change Float.ofModel (.pack (UnpackedFloat.mul Format.binary64
    (signed .positive h₁).toModel.unpack (signed .positive h₂).toModel.unpack)) = _
  rw [unpack_signed, unpack_signed, mul_eq h h₁.pos h₂.pos hv (mul_fine hfull h₂.pos)]
  rfl

private theorem div_signed {v : ℚ} {m : Nat} {e : Int} (h : RoundsTo v m e) {m₁ m₂ : Nat}
    {e₁ e₂ : Int} (h₁ : Canonical m₁ e₁) (h₂ : Canonical m₂ e₂)
    (hv : v = (m₁ * 2 ^ e₁) / (m₂ * 2 ^ e₂)) :
    signed .positive h₁ / signed .positive h₂ = signed .positive h.canonical := by
  change Float.ofModel (.pack (UnpackedFloat.div Format.binary64
    (signed .positive h₁).toModel.unpack (signed .positive h₂).toModel.unpack)) = _
  rw [unpack_signed, unpack_signed, div_eq h h₁.pos h₂.pos hv]
  rfl

private theorem ofScientific_small {n : Nat} {d : Int} {m : Nat} {e : Int}
    (h : RoundsTo (n * 10 ^ d) m e) (hn : 0 < n) (hsmall : n < 2 ^ 53) {x : Float}
    (hx : IsPowerOfTen x d.natAbs) :
    (if d < 0 then n.toUInt64.toFloat / x else n.toUInt64.toFloat * x)
      = signed .positive h.canonical := by
  obtain ⟨m₂, e₂, h₂, rfl, hvalue⟩ := hx.eq_signed
  have hcanonical := canonical_shiftLeft hn hsmall
  rw [toFloat_eq_signed hn hsmall]
  split
  case isTrue hneg =>
    apply div_signed h
    rw [shiftLeft_mul_two_zpow hn hsmall, hvalue, zpow_natAbs_of_neg hneg, mul_one_div]
  case isFalse hnonneg =>
    apply mul_signed h _ _ (hcanonical.full.resolve_right (by omega))
    rw [shiftLeft_mul_two_zpow hn hsmall, hvalue, zpow_natAbs_of_nonneg (not_lt.mp hnonneg)]

private theorem ofScientific_large {n : Nat} {d : Int} {m : Nat} {e : Int}
    (h : RoundsTo (n * 10 ^ d) m e) (hn : 0 < n) (hhigh : d ≤ 2048)
    (hlow : -(2048 + (n.log2 : Int)) ≤ d) :
    UnpackedFloat.ofScientific Format.binary64 n d = .finite .positive m e h.canonical.pos := by
  unfold UnpackedFloat.ofScientific
  rw [dif_neg hn.ne', if_neg (by norm_num; omega), if_neg (by norm_num; omega)]
  by_cases hnonneg : 0 ≤ d
  · rw [if_pos hnonneg]
    have hshift : n <<< Format.binary64.mantissaBits = n * 2 ^ 53 := Nat.shiftLeft_eq ..
    apply mul_eq h
    · have hbits : ((n <<< Format.binary64.mantissaBits : Nat) : ℚ) = n * 2 ^ 53 := by
        exact_mod_cast hshift
      rw [hbits, zpow_natAbs_of_nonneg hnonneg, show d.natAbs = d.toNat by omega]
      simp only [Format.mantissaBits]
      push_cast
      norm_num
      ring
    · apply mul_fine
      · rw [hshift]
        calc 2 ^ 52 ≤ 1 * 2 ^ 53 := by norm_num
          _ ≤ n * 2 ^ 53 := Nat.mul_le_mul_right _ hn
      · exact Nat.pow_pos (by decide)
  · rw [if_neg hnonneg]
    apply div_eq h
    rw [zpow_natAbs_of_neg (by omega), show d.natAbs = (-d).toNat by omega]
    push_cast
    field_simp

/-- A decimal is read as the float that it rounds to. -/
theorem ofScientific_eq {n : Nat} {d : Int} {m : Nat} {e : Int} (h : RoundsTo (n * 10 ^ d) m e)
    (hn : 0 < n) (hhigh : d ≤ 2048) (hlow : -(2048 + (n.log2 : Int)) ≤ d) :
    Float.ofScientific n (d < 0) d.natAbs = signed .positive h.canonical := by
  unfold Float.ofScientific
  split
  case isTrue hsmall =>
    rw [← ofScientific_small h hn hsmall.1 (isPowerOfTen_table ⟨d.natAbs, by omega⟩)]
    simp only [decide_eq_true_eq]
    rfl
  case isFalse hlarge =>
    have hexponent :
        (if decide (d < 0) then Int.negOfNat d.natAbs else Int.ofNat d.natAbs) = d := by
      split <;> rename_i hd <;> simp only [decide_eq_true_eq] at hd
      · rw [Int.negOfNat_eq]
        change -(d.natAbs : Int) = d
        omega
      · change (d.natAbs : Int) = d
        omega
    simp only [hexponent]
    change Float.ofModel (.pack (UnpackedFloat.ofScientific Format.binary64 n d)) = _
    rw [ofScientific_large h hn hhigh hlow]
    rfl

end MapMarkup.Decimal
