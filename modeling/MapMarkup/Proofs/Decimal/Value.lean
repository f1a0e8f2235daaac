import MapMarkup.Proofs.Decimal.Order
import MapMarkup.Proofs.Decimal.Scientific

/-!
# The numbers that floats stand for

A finite float stands for a rational number (`value`), and finite floats are ordered as these
numbers are (`le_iff_value_le`). Two positive floats never stand for the same number
(`eq_of_value_eq`). A natural of at most 53 bits is the number of a float (`value_ofNat`).
-/

namespace MapMarkup.Decimal

open Float.Model Float.Model.UnpackedFloat

/-- The number that a finite float stands for. -/
def value (x : Float) : ℚ :=
  let b := Binary.ofFloat x
  let magnitude : ℚ := (b.mantissa * twos b.exponent : Nat) / (twos (-b.exponent) : Nat)
  if isNegative x then -magnitude else magnitude

def withSign (s : Sign) (v : ℚ) : ℚ :=
  match s with
  | .negative => -v
  | .positive => v

section

variable {m n : Nat} {e f : Int}

theorem value_signed (s : Sign) (h : Canonical m e) :
    value (signed s h) = withSign s (m * 2 ^ e) := by
  have hmagnitude : ((m * twos e : Nat) : ℚ) / (twos (-e) : Nat) = m * 2 ^ e := by
    rw [← twos_div_twos_neg]
    push_cast
    exact mul_div_assoc ..
  simp only [value, binary_ofFloat_signed, isNegative_signed, hmagnitude]
  cases s <;> rfl

theorem value_signedZero (s : Sign) : value (signedZero s) = 0 := by
  simp [value, mantissa_signedZero]

theorem isFinite_signed (s : Sign) (h : Canonical m e) : (signed s h).isFinite = true := by
  change (signed s h).toModel.unpack.isFinite = true
  rw [unpack_signed]
  rfl

/-! ### The order of values -/

theorem Canonical.lt_of_exponent_lt (h : Canonical m e) (k : Canonical n f) (hef : e < f) :
    (m : ℚ) * 2 ^ e < n * 2 ^ f := by
  have hleast := h.least
  have hm : (m : ℚ) < 2 ^ 53 := by exact_mod_cast h.lt
  have hn : (2 : ℚ) ^ 52 ≤ n := by exact_mod_cast k.full.resolve_right (by omega)
  have hnext : (2 : ℚ) ^ (e + 1) ≤ 2 ^ f := zpow_le_zpow_right₀ (by norm_num) (by omega)
  calc (m : ℚ) * 2 ^ e < 2 ^ 53 * 2 ^ e := by gcongr
    _ = 2 ^ 52 * 2 ^ (e + 1) := by rw [zpow_add_one₀ (by norm_num)]; ring
    _ ≤ n * 2 ^ f := by gcongr

theorem Canonical.lex_le_iff (h : Canonical m e) (k : Canonical n f) :
    e < f ∨ e = f ∧ m ≤ n ↔ (m : ℚ) * 2 ^ e ≤ n * 2 ^ f := by
  rcases lt_trichotomy e f with hlt | rfl | hgt
  · exact iff_of_true (.inl hlt) (h.lt_of_exponent_lt k hlt).le
  · have hpow : (0 : ℚ) < 2 ^ e := by positivity
    rw [mul_le_mul_iff_left₀ hpow, Nat.cast_le]
    omega
  · exact iff_of_false (by omega) (not_le.mpr (k.lt_of_exponent_lt h hgt))

theorem Canonical.magnitude_pos (h : Canonical m e) : (0 : ℚ) < m * 2 ^ e := by
  have hm : (0 : ℚ) < m := by exact_mod_cast h.pos
  positivity

end

theorem value_zero : value 0 = 0 := by
  decide +kernel

theorem unpack_signedZero (s : Sign) : (signedZero s).toModel.unpack = .zero s := by
  cases s <;> rfl

theorem le_iff_value_le {x y : Float} (hx : x.isFinite = true) (hy : y.isFinite = true) :
    x ≤ y ↔ value x ≤ value y := by
  rw [le_iff_rank_le (isNaN_of_isFinite hx) (isNaN_of_isFinite hy)]
  rcases eq_zero_or_eq_signed hx with ⟨s, rfl⟩ | ⟨s, m, e, h, rfl⟩ <;>
    rcases eq_zero_or_eq_signed hy with ⟨t, rfl⟩ | ⟨t, n, f, k, rfl⟩
  · simp only [unpack_signedZero, rank, value_signedZero, le_refl]
  · have hpos := k.magnitude_pos
    rw [unpack_signedZero, unpack_signed, value_signedZero, value_signed]
    cases t <;> simp only [withSign]
    · exact iff_of_false (by simp [rank, Prod.Lex.toLex_le_toLex]) (by linarith)
    · exact iff_of_true (by simp [rank, Prod.Lex.toLex_le_toLex]) hpos.le
  · have hpos := h.magnitude_pos
    rw [unpack_signedZero, unpack_signed, value_signedZero, value_signed]
    cases s <;> simp only [withSign]
    · exact iff_of_true (by simp [rank, Prod.Lex.toLex_le_toLex]) (by linarith)
    · exact iff_of_false (by simp [rank, Prod.Lex.toLex_le_toLex]) (by linarith)
  · have hpos := h.magnitude_pos
    have hpos' := k.magnitude_pos
    rw [unpack_signed, unpack_signed, value_signed, value_signed]
    cases s <;> cases t <;> simp only [withSign]
    · rw [neg_le_neg_iff, ← k.lex_le_iff h]
      simp [rank, Prod.Lex.toLex_le_toLex, eq_comm]
    · exact iff_of_true (by simp [rank, Prod.Lex.toLex_le_toLex]) (by linarith)
    · exact iff_of_false (by simp [rank, Prod.Lex.toLex_le_toLex]) (by linarith)
    · rw [← h.lex_le_iff k]
      simp [rank, Prod.Lex.toLex_le_toLex]

theorem lt_iff_value_lt {x y : Float} (hx : x.isFinite = true) (hy : y.isFinite = true) :
    x < y ↔ value x < value y := by
  rw [← not_le, ← le_iff_value_le hy hx]
  exact ⟨fun h hle => not_lt_of_le hle h, fun h => by
    by_contra hlt
    exact h (float_le_of_not_lt (isNaN_of_isFinite hy) (isNaN_of_isFinite hx) hlt)⟩

/-! ### Positive floats -/

section

variable {x y : Float}

theorem exists_signed_of_pos (h : 0 < x) (hfinite : x.isFinite = true) :
    ∃ m e, ∃ hc : Canonical m e, x = signed .positive hc := by
  rcases eq_zero_or_eq_signed hfinite with ⟨s, rfl⟩ | ⟨s, m, e, hc, rfl⟩
  · cases s <;> exact absurd h (by decide)
  · cases s
    · rw [lt_iff_value_lt (by decide) hfinite, value_signed] at h
      have hpos := hc.magnitude_pos
      simp only [withSign, value_zero] at h
      linarith
    · exact ⟨m, e, hc, rfl⟩

theorem eq_of_value_eq (hx : 0 < x) (hfinite : x.isFinite = true) (hy : 0 < y)
    (hfinite' : y.isFinite = true) (h : value x = value y) : x = y := by
  obtain ⟨m, e, hm, rfl⟩ := exists_signed_of_pos hx hfinite
  obtain ⟨n, f, hn, rfl⟩ := exists_signed_of_pos hy hfinite'
  rw [value_signed, value_signed] at h
  simp only [withSign] at h
  have hle := (hm.lex_le_iff hn).mpr h.le
  have hge := (hn.lex_le_iff hm).mpr h.ge
  obtain rfl : e = f := by omega
  obtain rfl : m = n := by omega
  rfl

end

/-! ### Naturals -/

theorem ofNat_eq_signed {n : Nat} (hpos : 0 < n) (hlt : n < 2 ^ 53) :
    Float.ofNat n = signed .positive (canonical_shiftLeft hpos hlt) := by
  have hrounds := RoundsTo.self (canonical_shiftLeft hpos hlt)
  rw [shiftLeft_mul_two_zpow hpos hlt] at hrounds
  refine ofScientific_eq (d := 0) ?_ hpos (by decide) (by omega)
  simpa using hrounds

theorem value_ofNat {n : Nat} (hlt : n < 2 ^ 53) : value (Float.ofNat n) = n := by
  rcases Nat.eq_zero_or_pos n with rfl | hpos
  · exact value_zero
  · rw [ofNat_eq_signed hpos hlt, value_signed, shiftLeft_mul_two_zpow hpos hlt]
    rfl

end MapMarkup.Decimal
