import MapMarkup.Proofs.Decimal.Shortest
import MapMarkup.Proofs.Text.Fields

/-!
# Every float reads back

The text of a float, read as a float, is that float: `readFloat_text`. The text of a finite float is
its shortest decimal laid out with digits and at most one point; reading rounds the same decimal,
and a shortest decimal rounds to its float. NaN and the infinities are words. So two floats with the
same text are the same (`text_injective`).
-/

namespace MapMarkup.Decimal

open Float.Model Float.Model.UnpackedFloat

/-! ### Rows of digits -/

theorem digitsValue_eq (ds : List Char) : digitsValue ds = Nat.ofDigitChars 10 ds 0 := rfl

theorem digitsValue_digitChars (n : Nat) : digitsValue (digitChars n) = n := by
  rw [digitsValue_eq, digitChars, Nat.ofDigitChars_ten_toDigits]

theorem isDigit_of_mem_digitChars {n : Nat} {c : Char} (h : c ∈ digitChars n) : c.isDigit = true :=
  Nat.isDigit_of_mem_toDigits (by decide) (by decide) h

theorem readNat_eq_some_iff {cs : List Char} {n : Nat} :
    readNat cs = some n ↔ ∃ ds, (cs = ds ∨ cs = '+' :: ds) ∧ ds ≠ []
      ∧ (∀ c ∈ ds, c.isDigit = true) ∧ digitsValue ds = n := by
  have hread (ds : List Char) :
      (if (ds ≠ [] && ds.all Char.isDigit) = true then some (digitsValue ds) else none) = some n
        ↔ ds ≠ [] ∧ (∀ c ∈ ds, c.isDigit = true) ∧ digitsValue ds = n := by
    simp [and_assoc]
  unfold readNat
  dsimp only
  split
  case h_1 rest =>
    rw [hread]
    constructor
    · intro h
      exact ⟨rest, .inr rfl, h⟩
    · rintro ⟨ds, rfl | hds, hne, hdigits, hvalue⟩
      · exact absurd (hdigits '+' List.mem_cons_self) (by decide)
      · cases hds
        exact ⟨hne, hdigits, hvalue⟩
  case h_2 hsign =>
    rw [hread]
    constructor
    · intro h
      exact ⟨cs, .inl rfl, h⟩
    · rintro ⟨ds, rfl | hds, h⟩
      · exact h
      · exact absurd hds (hsign ds)

private theorem readUnsigned_digits {ds : List Char} (hne : ds ≠ [])
    (hds : ∀ c ∈ ds, c.isDigit = true) :
    readUnsigned ds = some (nearestFloat (digitsValue ds) 0) := by
  obtain ⟨htake, hdrop⟩ := Text.span_append [] hds (by simp)
  rw [List.append_nil] at htake hdrop
  unfold readUnsigned
  rw [htake, hdrop]
  simp [hne, readExponent]

private theorem readUnsigned_point {whole fraction : List Char} (hne : whole ≠ [])
    (hwhole : ∀ c ∈ whole, c.isDigit = true) (hfraction : ∀ c ∈ fraction, c.isDigit = true) :
    readUnsigned (whole ++ '.' :: fraction)
      = some (nearestFloat (digitsValue (whole ++ fraction)) (-fraction.length)) := by
  obtain ⟨htake, hdrop⟩ := Text.span_append ('.' :: fraction) hwhole (by simp)
  obtain ⟨htake', hdrop'⟩ := Text.span_append [] hfraction (by simp)
  rw [List.append_nil] at htake' hdrop'
  unfold readUnsigned
  rw [htake, hdrop]
  simp [hne, readExponent, htake', hdrop']

private theorem isDigit_toLower {c : Char} (hc : c.isDigit = true) : c.toLower = c := by
  rw [Char.isDigit_iff_toNat] at hc
  unfold Char.toLower
  rw [dif_neg]
  rintro ⟨hlow, _⟩
  change 65 ≤ c.toNat at hlow
  have hhigh : c.toNat ≤ 57 := hc.2
  omega

private theorem readMagnitude_of_digit {c : Char} {cs : List Char} (hc : c.isDigit = true) :
    readMagnitude (c :: cs) = readUnsigned (c :: cs) := by
  have hword : c ≠ 'i' ∧ c ≠ 'n' := by
    constructor <;> rintro rfl <;> exact absurd hc (by decide)
  unfold readMagnitude
  simp [isDigit_toLower hc, hword]

private theorem readFloat_of_digit {c : Char} {cs : List Char} (hc : c.isDigit = true) :
    readFloat (c :: cs) = readMagnitude (c :: cs) := by
  unfold readFloat
  split
  case h_1 heq => cases heq; exact absurd hc (by decide)
  case h_2 heq => cases heq; exact absurd hc (by decide)
  case h_3 => rfl

/-! ### Decimals laid out with a point -/

/-- A text of digits with at most one point, after its whole part and before its fraction. -/
structure IsPositional (cs whole fraction : List Char) : Prop where
  whole_ne_nil : whole ≠ []
  whole_digits : ∀ c ∈ whole, c.isDigit = true
  fraction_digits : ∀ c ∈ fraction, c.isDigit = true
  layout : (cs = whole ∧ fraction = []) ∨ cs = whole ++ '.' :: fraction

namespace IsPositional

variable {cs whole fraction : List Char}

theorem exists_head (h : IsPositional cs whole fraction) :
    ∃ c rest, cs = c :: rest ∧ c.isDigit = true := by
  obtain ⟨hne, hwhole, _, hlayout⟩ := h
  cases whole with
  | nil => exact absurd rfl hne
  | cons c rest =>
    have hc := hwhole c List.mem_cons_self
    rcases hlayout with ⟨rfl, _⟩ | rfl
    · exact ⟨c, rest, rfl, hc⟩
    · exact ⟨c, _, rfl, hc⟩

private theorem readMagnitude_eq (h : IsPositional cs whole fraction) : readMagnitude cs
    = some (nearestFloat (digitsValue (whole ++ fraction)) (-fraction.length)) := by
  obtain ⟨c, rest, hcs, hc⟩ := h.exists_head
  rw [hcs, readMagnitude_of_digit hc, ← hcs]
  rcases h.layout with ⟨rfl, rfl⟩ | rfl
  · rw [List.append_nil]
    exact readUnsigned_digits h.whole_ne_nil h.whole_digits
  · exact readUnsigned_point h.whole_ne_nil h.whole_digits h.fraction_digits

private theorem readFloat_eq (h : IsPositional cs whole fraction) :
    readFloat cs = readMagnitude cs := by
  obtain ⟨c, rest, rfl, hc⟩ := h.exists_head
  exact readFloat_of_digit hc

private theorem isDigit_or_eq_point (h : IsPositional cs whole fraction) {c : Char} (hc : c ∈ cs) :
    c.isDigit = true ∨ c = '.' := by
  rcases h.layout with ⟨rfl, _⟩ | rfl
  · exact .inl (h.whole_digits c hc)
  · rcases List.mem_append.mp hc with hc | hc
    · exact .inl (h.whole_digits c hc)
    · rcases List.mem_cons.mp hc with rfl | hc
      · exact .inr rfl
      · exact .inl (h.fraction_digits c hc)

end IsPositional

theorem digitChars_ne_nil (n : Nat) : digitChars n ≠ [] := Nat.toDigits_ne_nil

theorem isDigit_of_mem_zeros_append {k : Nat} {ds : List Char} (hds : ∀ c ∈ ds, c.isDigit = true) :
    ∀ c ∈ List.replicate k '0' ++ ds, c.isDigit = true := by
  intro c hc
  rcases List.mem_append.mp hc with hc | hc
  · rw [List.eq_of_mem_replicate hc]
    rfl
  · exact hds c hc

/-- A decimal that is laid out positionally is a positional text of the same value. -/
theorem positionalChars_isPositional (d : Digits) : ∃ whole fraction,
    IsPositional (positionalChars false d) whole fraction
      ∧ (digitsValue (whole ++ fraction) : ℚ) * 10 ^ (-fraction.length : Int) = d.value := by
  obtain ⟨ds, hds⟩ : ∃ ds, ds = digitChars d.digits := ⟨_, rfl⟩
  have hne : ds ≠ [] := hds ▸ digitChars_ne_nil _
  have hdigit : ∀ c ∈ ds, c.isDigit = true := fun c hc => isDigit_of_mem_digitChars (hds ▸ hc)
  have hvalue : Nat.ofDigitChars 10 ds 0 = d.digits := by
    rw [hds, ← digitsValue_eq, digitsValue_digitChars]
  unfold positionalChars Digits.value
  simp only [← hds]
  by_cases hexp : 0 ≤ d.exponent
  · rw [if_pos hexp, if_neg (by decide), List.append_nil]
    refine ⟨ds ++ List.replicate d.exponent.toNat '0', [],
      ⟨by simp [hne], ?_, by simp, .inl ⟨rfl, rfl⟩⟩, ?_⟩
    · intro c hc
      exact isDigit_of_mem_zeros_append hdigit c (List.perm_append_comm.mem_iff.mp hc)
    · have : (10 : ℚ) ^ d.exponent = 10 ^ d.exponent.toNat := by
        rw [← zpow_natCast, Int.toNat_of_nonneg hexp]
      rw [List.append_nil, digitsValue_eq, Nat.ofDigitChars_append, hvalue,
        Nat.ofDigitChars_replicate_zero, this]
      simp [mul_comm]
  · rw [if_neg hexp]
    obtain ⟨places, hplaces⟩ : ∃ places : Nat, d.exponent = -(places : Int) :=
      ⟨(-d.exponent).toNat, by omega⟩
    rw [hplaces, neg_neg, Int.toNat_natCast]
    by_cases hinside : places < ds.length
    · rw [if_pos hinside]
      have htake : ds.take (ds.length - places) ≠ [] := by
        rw [← List.length_pos_iff, List.length_take]
        omega
      refine ⟨_, _, ⟨htake, fun c hc => hdigit c (List.mem_of_mem_take hc),
        fun c hc => hdigit c (List.mem_of_mem_drop hc), .inr rfl⟩, ?_⟩
      rw [List.take_append_drop, digitsValue_eq, hvalue, List.length_drop,
        show ds.length - (ds.length - places) = places by omega]
    · rw [if_neg hinside]
      refine ⟨['0'], _, ⟨by simp, by simp, isDigit_of_mem_zeros_append hdigit, .inr rfl⟩, ?_⟩
      have hzero : Nat.ofDigitChars 10 ['0'] 0 = 0 := rfl
      rw [digitsValue_eq, Nat.ofDigitChars_append, Nat.ofDigitChars_append,
        Nat.ofDigitChars_replicate_zero, hzero, Nat.mul_zero, hvalue, List.length_append,
        List.length_replicate, show places - ds.length + ds.length = places by omega]

/-! ### The float nearest to a decimal -/

theorem two_pow_lt_ten_pow : (2 : ℚ) ^ (1075 : Int) < 10 ^ (400 : Int) := by
  calc (2 : ℚ) ^ (1075 : Int) < 2 ^ (3 * 400 : Int) :=
        zpow_lt_zpow_right₀ (by norm_num) (by norm_num)
    _ = (2 ^ (3 : Int)) ^ (400 : Int) := zpow_mul _ _ _
    _ ≤ 10 ^ (400 : Int) := zpow_le_zpow_left₀ (by norm_num) (by norm_num) (by norm_num)

private theorem RoundsTo.tiny_lt {x : ℚ} {m : Nat} {e : Int} (h : RoundsTo x m e) :
    (10 : ℚ) ^ (-400 : Int) < x := by
  have hpow : (0 : ℚ) < 2 ^ e := by positivity
  have hm : (1 : ℚ) ≤ m := by exact_mod_cast h.canonical.pos
  have hlow := h.low
  calc (10 : ℚ) ^ (-400 : Int) < 2 ^ (-1075 : Int) := by
        rw [zpow_neg, zpow_neg]
        exact inv_strictAnti₀ (by positivity) two_pow_lt_ten_pow
    _ = 1 / 2 * 2 ^ (-1074 : Int) := by
        rw [show (-1075 : Int) = -1 + -1074 by norm_num, zpow_add₀ (by norm_num)]
        norm_num
    _ ≤ 1 / 2 * 2 ^ e := by
        gcongr
        · norm_num
        · exact h.canonical.least
    _ ≤ x := by
        rw [← le_div_iff₀ hpow]
        linarith

private theorem RoundsTo.lt_huge {x : ℚ} {m : Nat} {e : Int} (h : RoundsTo x m e) :
    x < (10 : ℚ) ^ (400 : Int) := by
  have hpow : (0 : ℚ) < 2 ^ e := by positivity
  have hm : (m : ℚ) + 1 ≤ 2 ^ 53 := by exact_mod_cast h.canonical.lt
  have hhigh := h.high
  calc x ≤ 2 ^ 53 * 2 ^ e := by
        rw [← div_le_iff₀ hpow]
        linarith
    _ ≤ 2 ^ 53 * 2 ^ (971 : Int) := by
        gcongr
        · norm_num
        · exact h.canonical.greatest
    _ = 2 ^ (1024 : Int) := by
        rw [show (1024 : Int) = (53 : Nat) + 971 by norm_num, zpow_add₀ (by norm_num),
          zpow_natCast]
    _ < 2 ^ (1075 : Int) := zpow_lt_zpow_right₀ (by norm_num) (by norm_num)
    _ < 10 ^ (400 : Int) := two_pow_lt_ten_pow

private theorem digits_bounds {n : Nat} (hn : 0 < n) :
    10 ^ ((Nat.toDigits 10 n).length - 1) ≤ n ∧ n < 10 ^ (Nat.toDigits 10 n).length := by
  have hlengthpos : 0 < (Nat.toDigits 10 n).length := Nat.length_toDigits_pos
  refine ⟨?_, (Nat.length_toDigits_le_iff (by decide) hlengthpos).mp le_rfl⟩
  rcases Nat.eq_zero_or_pos ((Nat.toDigits 10 n).length - 1) with hzero | hpos
  · rw [hzero, pow_zero]
    exact hn
  · by_contra hsmall
    have hfewer := (Nat.length_toDigits_le_iff (b := 10) (by decide) hpos).mpr (not_le.mp hsmall)
    omega

/-- The number of digits of a decimal that rounds to a float is far from the limits of reading. -/
theorem RoundsTo.size_bounds {n : Nat} {k : Int} {m : Nat} {e : Int}
    (h : RoundsTo (n * 10 ^ k) m e) (hn : 0 < n) :
    -400 ≤ k + (Nat.toDigits 10 n).length ∧ k + (Nat.toDigits 10 n).length ≤ 400 := by
  obtain ⟨hge, hlt⟩ := digits_bounds hn
  generalize (Nat.toDigits 10 n).length = l at hge hlt ⊢
  constructor
  · by_contra hfew
    have hvalue : (n : ℚ) * 10 ^ k < 10 ^ (-400 : Int) := by
      calc (n : ℚ) * 10 ^ k < 10 ^ (l : Int) * 10 ^ k := by
            rw [zpow_natCast]
            gcongr
            exact_mod_cast hlt
        _ = 10 ^ ((l : Int) + k) := (zpow_add₀ (by norm_num) _ _).symm
        _ ≤ 10 ^ (-400 : Int) := zpow_le_zpow_right₀ (by norm_num) (by omega)
    exact absurd hvalue (not_lt.mpr h.tiny_lt.le)
  · by_contra hmany
    have hvalue : (10 : ℚ) ^ (400 : Int) ≤ n * 10 ^ k := by
      calc (10 : ℚ) ^ (400 : Int) ≤ 10 ^ (((l - 1 : Nat) : Int) + k) :=
            zpow_le_zpow_right₀ (by norm_num) (by omega)
        _ = 10 ^ ((l - 1 : Nat) : Int) * 10 ^ k := zpow_add₀ (by norm_num) _ _
        _ ≤ n * 10 ^ k := by
            rw [zpow_natCast]
            gcongr
            exact_mod_cast hge
    exact absurd hvalue (not_le.mpr h.lt_huge)

private theorem nearestFloat_eq {n : Nat} {k : Int} {m : Nat} {e : Int}
    (h : RoundsTo (n * 10 ^ k) m e) :
    nearestFloat n k = signed .positive h.canonical := by
  have hn : 0 < n := by
    by_contra hzero
    have hpos := h.pos
    rw [Nat.eq_zero_of_not_pos hzero] at hpos
    simp at hpos
  obtain ⟨hlow, hhigh⟩ := h.size_bounds hn
  have hlength : (Nat.toDigits 10 n).length ≤ n.log2 + 1 := by
    rw [Nat.length_toDigits_le_iff (by decide) (by omega)]
    exact lt_of_lt_of_le Nat.lt_log2_self (Nat.pow_le_pow_left (by decide) _)
  unfold nearestFloat
  dsimp only
  rw [if_neg hn.ne', if_neg (by omega), if_neg (by omega)]
  exact ofScientific_eq h hn (by omega) (by omega)

/-! ### The texts of floats -/

theorem text_signed (s : Sign) {m : Nat} {e : Int} (h : Canonical m e) :
    (text (signed s h)).toList = (if s == .negative then ['-'] else [])
      ++ positionalChars false ((magnitude m e).shortest .away) := by
  have hnan : (signed s h).isNaN = false := by
    change (signed s h).toModel.unpack.isNaN = false
    rw [unpack_signed]
    rfl
  have hinf : (signed s h).isInf = false := by
    change (signed s h).toModel.unpack.isInf = false
    rw [unpack_signed]
    rfl
  unfold text
  rw [hnan, hinf, if_neg (by decide), if_neg (by decide), String.toList_ofList]
  unfold Layout.finite
  rw [isNegative_signed, binary_ofFloat_signed]
  rfl

/-- Every float reads back from its text. -/
theorem readFloat_text (x : Float) : readFloat (text x).toList = some x := by
  by_cases hx : x.isFinite = true
  · rcases eq_zero_or_eq_signed hx with ⟨s, rfl⟩ | ⟨s, m, e, h, rfl⟩
    · cases s <;> decide +kernel
    · obtain ⟨whole, fraction, hpositional, hvalue⟩ :=
        positionalChars_isPositional ((magnitude m e).shortest .away)
      have hround := roundsTo_shortest h .away
      rw [← hvalue] at hround
      have hread := hpositional.readMagnitude_eq
      rw [nearestFloat_eq hround] at hread
      rw [text_signed]
      cases s with
      | positive => exact hpositional.readFloat_eq.trans hread
      | negative =>
        change (readMagnitude (positionalChars false ((magnitude m e).shortest .away))).map _ = _
        rw [hread, Option.map_some, neg_signed]
        rfl
  · rw [Bool.not_eq_true] at hx
    rcases eq_infinite_or_eq_notANumber hx with ⟨s, rfl⟩ | rfl
    · cases s <;> decide +kernel
    · decide +kernel

/-- The text of a finite float holds digits, a point and a minus sign. -/
theorem mem_text {x : Float} (hx : x.isFinite = true) {c : Char} (hc : c ∈ (text x).toList) :
    c.isDigit = true ∨ c = '.' ∨ c = '-' := by
  rcases eq_zero_or_eq_signed hx with ⟨s, rfl⟩ | ⟨s, m, e, h, rfl⟩
  · have hzero : (text (signedZero s)).toList = if s == .negative then ['-', '0'] else ['0'] := by
      cases s <;> decide +kernel
    rw [hzero] at hc
    cases s with
    | positive =>
      rw [List.mem_singleton.mp hc]
      exact .inl rfl
    | negative =>
      rcases List.mem_cons.mp hc with rfl | hc
      · exact .inr (.inr rfl)
      · rw [List.mem_singleton.mp hc]
        exact .inl rfl
  · obtain ⟨whole, fraction, hpositional, _⟩ :=
      positionalChars_isPositional ((magnitude m e).shortest .away)
    rw [text_signed, List.mem_append] at hc
    rcases hc with hsign | hmagnitude
    · cases s with
      | positive => exact absurd hsign List.not_mem_nil
      | negative => exact .inr (.inr (List.mem_singleton.mp hsign))
    · rcases hpositional.isDigit_or_eq_point hmagnitude with hdigit | hpoint
      · exact .inl hdigit
      · exact .inr (.inl hpoint)

theorem notMem_text {c : Char} (hdigit : c.isDigit = false)
    (hother : c ∉ ['.', '-', 'i', 'n', 'f', 'N', 'a']) (x : Float) : c ∉ (text x).toList := by
  intro hc
  by_cases hx : x.isFinite = true
  · rcases mem_text hx hc with h | rfl | rfl
    · rw [h] at hdigit
      cases hdigit
    · exact hother (by decide)
    · exact hother (by decide)
  · have hletters : (text x).toList.all ['.', '-', 'i', 'n', 'f', 'N', 'a'].contains = true := by
      rcases eq_infinite_or_eq_notANumber (Bool.not_eq_true _ ▸ hx) with ⟨s, rfl⟩ | rfl
      · cases s <;> decide
      · decide
    exact hother (List.contains_iff_mem.mp (List.all_eq_true.mp hletters c hc))

theorem text_injective {x y : Float} (h : text x = text y) : x = y := by
  have hx := readFloat_text x
  rw [h, readFloat_text y] at hx
  exact (Option.some.inj hx).symm

end MapMarkup.Decimal
