import MapMarkup.Proofs.Decimal.Scientific

/-!
# The shortest decimal rounds to its float

`Binary.shortest` picks a decimal from the reals that round to a float, whichever grid it finds one
on and also when it finds none and falls back on the exact value (`roundsTo_shortest`).
-/

namespace MapMarkup.Decimal

def Digits.value (d : Digits) : ℚ := d.digits * 10 ^ d.exponent

/-! ### Exact comparison -/

section Comparison

variable (a : Nat) (i : Int) (n : Nat) (j : Int)

theorem scaled_ten_eq :
    (a : ℚ) * 10 ^ i * (twos (-j) * tens (-i)) = (a * tens i * twos (-j) : Nat) := by
  have htens : (0 : ℚ) < tens (-i) := by exact_mod_cast tens_pos (-i)
  rw [← tens_div_tens_neg]
  push_cast
  field_simp

theorem scaled_two_eq :
    (n : ℚ) * 2 ^ j * (twos (-j) * tens (-i)) = (n * twos j * tens (-i) : Nat) := by
  have htwos : (0 : ℚ) < twos (-j) := by exact_mod_cast twos_pos (-j)
  rw [← twos_div_twos_neg]
  push_cast
  field_simp

theorem scale_pos : (0 : ℚ) < twos (-j) * tens (-i) := by
  have htwos : (0 : ℚ) < twos (-j) := by exact_mod_cast twos_pos (-j)
  have htens : (0 : ℚ) < tens (-i) := by exact_mod_cast tens_pos (-i)
  positivity

private theorem compareScaled_eq_lt :
    compareScaled a i n j = .lt ↔ (a : ℚ) * 10 ^ i < n * 2 ^ j := by
  rw [compareScaled, Nat.compare_eq_lt, ← mul_lt_mul_iff_left₀ (scale_pos i j), scaled_ten_eq,
    scaled_two_eq, Nat.cast_lt]

private theorem compareScaled_eq_gt :
    compareScaled a i n j = .gt ↔ (n : ℚ) * 2 ^ j < a * 10 ^ i := by
  rw [compareScaled, Nat.compare_eq_gt, ← mul_lt_mul_iff_left₀ (scale_pos i j), scaled_ten_eq,
    scaled_two_eq, Nat.cast_lt]

theorem compareScaled_eq_eq : compareScaled a i n j = .eq ↔ (a : ℚ) * 10 ^ i = n * 2 ^ j := by
  rw [compareScaled, Nat.compare_eq_eq, ← mul_left_inj' (scale_pos i j).ne', scaled_ten_eq,
    scaled_two_eq, Nat.cast_inj]

end Comparison

/-! ### Decimals that read back -/

def magnitude (m : Nat) (e : Int) : Binary := ⟨m, e, m = 2 ^ 52 && e ≠ -1074⟩

theorem scaled_quarters (k : ℚ) (e : Int) : k * 2 ^ (e - 2) = k / 4 * 2 ^ e := by
  rw [zpow_sub₀ (by norm_num)]
  norm_num
  ring

/-- The lower end of the reals that round to a float, in quarters of its unit. -/
def lowQuarters (m : Nat) (e : Int) : Nat :=
  if m = 2 ^ 52 ∧ e ≠ -1074 then 4 * m - 1 else 4 * m - 2

private theorem lowQuarters_bounds {m : Nat} (hm : 0 < m) (e : Int) :
    (m : ℚ) - 1 / 2 ≤ (lowQuarters m e : ℚ) / 4
      ∧ (m = 2 ^ 52 → e ≠ -1074 → (m : ℚ) - 1 / 4 ≤ (lowQuarters m e : ℚ) / 4) := by
  unfold lowQuarters
  split
  case isTrue hnarrow =>
    rw [Nat.cast_sub (by omega)]
    push_cast
    constructor
    · linarith
    · intro _ _
      linarith
  case isFalse hwide =>
    rw [Nat.cast_sub (by omega)]
    push_cast
    constructor
    · linarith
    · intro hfull he
      exact absurd ⟨hfull, he⟩ hwide

private theorem roundsTo_of_readsBack {m : Nat} {e : Int} (h : Canonical m e) {d : Digits}
    (hd : (magnitude m e).readsBack d = true) : RoundsTo d.value m e := by
  have hpow : (0 : ℚ) < 2 ^ e := by positivity
  obtain ⟨hlow, hnarrow⟩ := lowQuarters_bounds h.pos e
  unfold Binary.readsBack magnitude at hd
  simp only [Bool.and_eq_true, Bool.or_eq_true, decide_eq_true_eq] at hd
  change ((compareScaled d.digits d.exponent (lowQuarters m e) (e - 2) = .gt
      ∨ m % 2 = 0 ∧ compareScaled d.digits d.exponent (lowQuarters m e) (e - 2) = .eq)
    ∧ (compareScaled d.digits d.exponent (4 * m + 2) (e - 2) = .lt
      ∨ m % 2 = 0 ∧ compareScaled d.digits d.exponent (4 * m + 2) (e - 2) = .eq)) at hd
  rw [compareScaled_eq_gt, compareScaled_eq_eq, compareScaled_eq_lt, compareScaled_eq_eq] at hd
  change ((_ < d.value ∨ _ ∧ d.value = _) ∧ (d.value < _ ∨ _ ∧ d.value = _)) at hd
  rw [scaled_quarters, scaled_quarters, ← lt_div_iff₀ hpow, ← div_lt_iff₀ hpow,
    ← div_eq_iff hpow.ne', ← div_eq_iff hpow.ne',
    show ((4 * m + 2 : Nat) : ℚ) / 4 = m + 1 / 2 by push_cast; ring] at hd
  obtain ⟨hbelow, habove⟩ := hd
  have hge : (lowQuarters m e : ℚ) / 4 ≤ d.value / 2 ^ e := by
    rcases hbelow with hlt | ⟨_, heq⟩
    · exact hlt.le
    · exact heq.ge
  have hle : d.value / 2 ^ e ≤ m + 1 / 2 := by
    rcases habove with hlt | ⟨_, heq⟩
    · exact hlt.le
    · exact heq.le
  refine ⟨h, hlow.trans hge, hle, ?_, fun hm he => (hnarrow hm he).trans hge⟩
  intro hodd
  constructor
  · rcases hbelow with hlt | ⟨heven, _⟩
    · exact lt_of_le_of_lt hlow hlt
    · omega
  · rcases habove with hlt | ⟨heven, _⟩
    · exact hlt
    · omega

/-! ### The choice of a decimal -/

private theorem readsBack_of_onGrid? {x : Binary} {tie : Tie} {grid : Int} {d : Digits}
    (h : x.onGrid? tie grid = some d) : x.readsBack d = true := by
  unfold Binary.onGrid? at h
  dsimp only at h
  split at h
  case h_1 hbelow _ =>
    cases h
    exact hbelow
  case h_2 _ habove =>
    cases h
    exact habove
  case h_3 => cases h
  case h_4 hbelow habove =>
    split at h <;> cases h
    · exact hbelow
    · exact habove
    · exact habove
    · split
      · exact hbelow
      · exact habove

private theorem value_exact {m : Nat} {e : Int} : (magnitude m e).exact.value = m * 2 ^ e := by
  unfold Binary.exact Digits.value magnitude
  dsimp only
  rw [Nat.pow_eq, ← twos_div_twos_neg, zpow_neg, zpow_natCast]
  have hten : (10 : ℚ) ^ (-e).toNat = 2 ^ (-e).toNat * 5 ^ (-e).toNat := by
    rw [← mul_pow]
    norm_num
  rw [hten]
  unfold twos
  simp only [Nat.pow_eq]
  push_cast
  field_simp

private theorem value_normalize (d : Digits) : d.normalize.value = d.value := by
  fun_induction Digits.normalize d with
  | case1 d h ih =>
    rw [ih]
    obtain ⟨k, hk⟩ : ∃ k, d.digits = 10 * k := ⟨d.digits / 10, by omega⟩
    unfold Digits.value
    dsimp only
    rw [hk, Nat.mul_div_cancel_left _ (by decide), zpow_add_one₀ (by norm_num)]
    push_cast
    ring
  | case2 d h => rfl

/-- The shortest decimal rounds to its float. -/
theorem roundsTo_shortest {m : Nat} {e : Int} (h : Canonical m e) (tie : Tie) :
    RoundsTo ((magnitude m e).shortest tie).value m e := by
  have hm : (magnitude m e).mantissa ≠ 0 := h.pos.ne'
  unfold Binary.shortest
  rw [if_neg hm, value_normalize]
  cases hfound : (((List.range 17).map fun n => (magnitude m e).scale - (n + 1 : Nat)).findSome?
      ((magnitude m e).onGrid? tie)) with
  | none =>
    rw [Option.getD_none, value_exact]
    exact RoundsTo.self h
  | some d =>
    obtain ⟨grid, _, hgrid⟩ := List.exists_of_findSome?_eq_some hfound
    exact roundsTo_of_readsBack h (readsBack_of_onGrid? hgrid)

end MapMarkup.Decimal
