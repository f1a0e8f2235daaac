import MapMarkup.Decimal.Layout
import MapMarkup.Proofs.Decimal.Rounding

/-!
# The bits of a float

Every finite float is a signed zero or a signed canonical mantissa with its exponent, packed into 64
bits (`eq_zero_or_eq_signed`). From the packed form its sign bit and its magnitude read back as
naturals, which is how `Binary.ofFloat` sees it.
-/

namespace MapMarkup.Decimal

open Float.Model Float.Model.UnpackedFloat

def signed (s : Sign) {m : Nat} {e : Int} (h : Canonical m e) : Float :=
  .ofModel (.pack (.finite s m e h.pos))

def signedZero (s : Sign) : Float :=
  .ofModel (.pack (.zero s))

theorem toNat_packComponents (s : Sign) (e : BitVec 11) (m : BitVec 52) :
    (packComponents Format.binary64 s e m).toNat
      = s.toBitVec.toNat * 2 ^ 63 + e.toNat * 2 ^ 52 + m.toNat := by
  unfold packComponents
  rw [BitVec.toNat_append, BitVec.toNat_append, ← Nat.shiftLeft_add_eq_or_of_lt e.isLt,
    ← Nat.shiftLeft_add_eq_or_of_lt m.isLt, Nat.shiftLeft_eq, Nat.shiftLeft_eq]
  ring

theorem toNat_pack_finite {m : Nat} {e : Int} (h : Canonical m e) (s : Sign) :
    (UnpackedFloat.pack Format.binary64 (.finite s m e h.pos)).toNat
      = s.toBitVec.toNat * 2 ^ 63 + (if 2 ^ 52 ≤ m then (e + 1075).toNat else 0) * 2 ^ 52
        + m % 2 ^ 52 := by
  have hgreatest := h.greatest
  have hbias : (e + (Format.binary64.exponentBias : Int)
      + (Format.binary64.mantissaBitsWithoutImplicit : Int)).toNat = (e + 1075).toNat := by
    simp only [Format.exponentBias]
    norm_num
    omega
  have hfits : ¬ 2 ^ 11 ≤ (e + 1075).toNat + 1 := by omega
  unfold UnpackedFloat.pack
  dsimp only
  rw [hbias, if_neg hfits]
  by_cases hfull : 2 ^ 52 ≤ m
  · have hlog : m.log2 + 1 = Format.binary64.mantissaBits := by
      have h₁ := (Nat.log2_lt h.pos.ne').mpr h.lt
      have h₂ := (Nat.le_log2 h.pos.ne').mpr hfull
      simp only [Format.mantissaBits]
      omega
    rw [if_pos hlog, if_pos hfull, toNat_packComponents, BitVec.toNat_ofNat, BitVec.toNat_ofNat,
      Nat.mod_eq_of_lt (by omega : (e + 1075).toNat < 2 ^ 11)]
  · have hlog : ¬ m.log2 + 1 = Format.binary64.mantissaBits := by
      have h₁ := (Nat.log2_lt h.pos.ne').mpr (by omega : m < 2 ^ 52)
      simp only [Format.mantissaBits]
      omega
    rw [if_neg hlog, if_neg hfull, toNat_packComponents, BitVec.toNat_ofNat]
    simp

theorem toNat_unpackMantissa (b : BitVec 64) :
    (@unpackMantissa Format.binary64 b).toNat = b.toNat % 2 ^ 52 := by
  simp [unpackMantissa]

theorem toNat_unpackExponent (b : BitVec 64) :
    (@unpackExponent Format.binary64 b).toNat = b.toNat / 2 ^ 52 % 2 ^ 11 := by
  simp [unpackExponent, Nat.shiftRight_eq_div_pow]

theorem toNat_unpackSign (b : BitVec 64) :
    (@unpackSign Format.binary64 b).toNat = b.toNat / 2 ^ 63 % 2 := by
  simp [unpackSign, Nat.shiftRight_eq_div_pow]

theorem toNat_append_one (m : BitVec 52) : (1#1 ++ m).toNat = 2 ^ 52 + m.toNat := by
  rw [BitVec.toNat_append, ← Nat.shiftLeft_add_eq_or_of_lt m.isLt, Nat.shiftLeft_eq]
  simp

theorem ofBitVec_toBitVec (s : Sign) : Sign.ofBitVec s.toBitVec = s := by
  cases s <;> rfl

theorem toNat_ofBitVec (b : BitVec 1) : (Sign.ofBitVec b).toBitVec.toNat = b.toNat := by
  have : b = 0#1 ∨ b = 1#1 := by decide +revert
  rcases this with rfl | rfl <;> rfl

theorem eq_of_toNat_eq {x y : Float}
    (h : x.toBits.toBitVec.toNat = y.toBits.toBitVec.toNat) : x = y := by
  obtain ⟨⟨⟨bx⟩, hx⟩⟩ := x
  obtain ⟨⟨⟨byy⟩, hy⟩⟩ := y
  have : bx = byy := BitVec.eq_of_toNat_eq h
  subst this
  rfl

theorem toNat_toBits_signed (s : Sign) {m : Nat} {e : Int} (h : Canonical m e) :
    (signed s h).toBits.toBitVec.toNat
      = s.toBitVec.toNat * 2 ^ 63 + (if 2 ^ 52 ≤ m then (e + 1075).toNat else 0) * 2 ^ 52
        + m % 2 ^ 52 :=
  toNat_pack_finite h s

theorem toNat_toBits_signedZero (s : Sign) :
    (signedZero s).toBits.toBitVec.toNat = s.toBitVec.toNat * 2 ^ 63 := by
  cases s <;> rfl

theorem eq_zero_or_eq_signed {x : Float} (hx : x.isFinite = true) :
    (∃ s, x = signedZero s) ∨ ∃ s m e, ∃ h : Canonical m e, x = signed s h := by
  obtain ⟨b, hb⟩ : ∃ b : BitVec 64, b = x.toBits.toBitVec := ⟨_, rfl⟩
  have hexp : @unpackExponent Format.binary64 b ≠ -1#_ := by
    intro hones
    change (UnpackedFloat.unpack Format.binary64 x.toBits.toBitVec).isFinite = true at hx
    rw [← hb] at hx
    unfold UnpackedFloat.unpack at hx
    simp only [hones, ↓reduceIte] at hx
    split at hx <;> exact Bool.noConfusion hx
  have hbiased : b.toNat / 2 ^ 52 % 2 ^ 11 ≠ 2047 := by
    intro hones
    apply hexp
    apply BitVec.eq_of_toNat_eq
    rw [toNat_unpackExponent, hones]
    rfl
  have hlt := b.isLt
  have hsign := toNat_ofBitVec (@unpackSign Format.binary64 b)
  rw [toNat_unpackSign] at hsign
  generalize Sign.ofBitVec (@unpackSign Format.binary64 b) = s at hsign
  by_cases hzero : b.toNat / 2 ^ 52 % 2 ^ 11 = 0
  · by_cases hfraction : b.toNat % 2 ^ 52 = 0
    · left
      refine ⟨s, eq_of_toNat_eq ?_⟩
      rw [← hb, toNat_toBits_signedZero, hsign]
      omega
    · right
      have hcanonical : Canonical (b.toNat % 2 ^ 52) (-1074) :=
        ⟨by omega, by omega, by omega, by omega, .inr rfl⟩
      refine ⟨s, _, _, hcanonical, eq_of_toNat_eq ?_⟩
      rw [← hb, toNat_toBits_signed, hsign, if_neg (by omega)]
      omega
  · right
    have hcanonical : Canonical (2 ^ 52 + b.toNat % 2 ^ 52)
        ((b.toNat / 2 ^ 52 % 2 ^ 11 : Nat) - 1075) :=
      ⟨by omega, by omega, by omega, by omega, .inl (by omega)⟩
    refine ⟨s, _, _, hcanonical, eq_of_toNat_eq ?_⟩
    rw [← hb, toNat_toBits_signed, hsign, if_pos (by omega)]
    omega

/-! ### Unpacking -/

theorem fields_signed (s : Sign) {m : Nat} {e : Int} (h : Canonical m e) {b : BitVec 64}
    (hb : b = (signed s h).toBits.toBitVec) :
    @unpackSign Format.binary64 b = s.toBitVec
      ∧ (@unpackExponent Format.binary64 b).toNat = (if 2 ^ 52 ≤ m then (e + 1075).toNat else 0)
      ∧ (@unpackMantissa Format.binary64 b).toNat = m % 2 ^ 52 := by
  have hgreatest := h.greatest
  have hbits := toNat_toBits_signed s h
  have hsign : s.toBitVec.toNat < 2 := s.toBitVec.isLt
  have hexponent : (if 2 ^ 52 ≤ m then (e + 1075).toNat else 0) < 2 ^ 11 := by
    split <;> omega
  rw [← hb] at hbits
  generalize (if 2 ^ 52 ≤ m then (e + 1075).toNat else 0) = biased at hbits hexponent ⊢
  refine ⟨BitVec.eq_of_toNat_eq ?_, ?_, ?_⟩
  · rw [toNat_unpackSign]
    omega
  · rw [toNat_unpackExponent]
    omega
  · rw [toNat_unpackMantissa]
    omega

theorem unpack_signed (s : Sign) {m : Nat} {e : Int} (h : Canonical m e) :
    (signed s h).toModel.unpack = .finite s m e h.pos := by
  have hgreatest := h.greatest
  have hleast := h.least
  have hm := h.lt
  have hpos := h.pos
  have hs := ofBitVec_toBitVec s
  change UnpackedFloat.unpack Format.binary64 (signed s h).toBits.toBitVec = _
  obtain ⟨b, hb⟩ : ∃ b, b = (signed s h).toBits.toBitVec := ⟨_, rfl⟩
  obtain ⟨hsign, hexp, hman⟩ := fields_signed s h hb
  rw [← hb]
  have hbias : (Format.binary64.exponentBias : Int) + Format.binary64.mantissaBitsWithoutImplicit
      = 1075 := by decide
  have hones : @unpackExponent Format.binary64 b ≠ -1#_ := by
    intro hones
    rw [hones] at hexp
    change 2047 = _ at hexp
    split at hexp <;> omega
  unfold UnpackedFloat.unpack
  simp only [hones, hsign, hs, hbias, ↓reduceIte]
  by_cases hfull : 2 ^ 52 ≤ m
  · rw [if_pos hfull] at hexp
    have hnz : @unpackExponent Format.binary64 b ≠ 0#_ := by
      intro hz
      rw [hz] at hexp
      change 0 = _ at hexp
      omega
    simp only [hnz, ↓reduceIte, toNat_append_one, hman, hexp]
    congr 1 <;> omega
  · rw [if_neg hfull] at hexp
    have hz : @unpackExponent Format.binary64 b = 0#_ := BitVec.eq_of_toNat_eq hexp
    have hnz : @unpackMantissa Format.binary64 b ≠ 0#_ := by
      intro hz
      rw [hz] at hman
      change 0 = _ at hman
      omega
    have he := h.full.resolve_left hfull
    simp only [hz, hnz, ↓reduceIte, ↓reduceDIte, hman]
    congr 1
    · omega
    · simp [he]

theorem neg_signed (s : Sign) {m : Nat} {e : Int} (h : Canonical m e) :
    -signed s h = signed (-s) h := by
  change Float.ofModel (.pack (UnpackedFloat.neg (signed s h).toModel.unpack)) = _
  rw [unpack_signed]
  rfl

theorem isNegative_signed (s : Sign) {m : Nat} {e : Int} (h : Canonical m e) :
    isNegative (signed s h) = (s == .negative) := by
  have hbits := toNat_toBits_signed s h
  have hgreatest := h.greatest
  unfold isNegative
  generalize (signed s h).toBits = b at hbits
  change b.toNat = _ at hbits
  have hshift : (b >>> 63).toNat = s.toBitVec.toNat := by
    rw [UInt64.toNat_shiftRight, Nat.shiftRight_eq_div_pow]
    change b.toNat / 2 ^ 63 = _
    split at hbits <;> omega
  have heq : (b >>> 63 = 1) ↔ s.toBitVec.toNat = 1 := by
    rw [← hshift, ← UInt64.toNat_inj]
    rfl
  cases s <;> simp only [heq] <;> rfl

theorem binary_ofFloat_signed (s : Sign) {m : Nat} {e : Int} (h : Canonical m e) :
    Binary.ofFloat (signed s h) = ⟨m, e, m = 2 ^ 52 && e ≠ -1074⟩ := by
  have hgreatest := h.greatest
  have hleast := h.least
  have hm := h.lt
  have hbits := toNat_toBits_signed s h
  have hsle : s.toBitVec.toNat < 2 := s.toBitVec.isLt
  unfold Binary.ofFloat
  generalize (signed s h).toBits = b at hbits
  change b.toNat = _ at hbits
  have hbiased : ((b >>> 52) &&& 0x7FF).toNat = b.toNat / 2 ^ 52 % 2 ^ 11 := by
    rw [UInt64.toNat_and, UInt64.toNat_shiftRight, Nat.shiftRight_eq_div_pow]
    exact Nat.and_two_pow_sub_one_eq_mod _ 11
  have hfraction : (b &&& 0xFFFFFFFFFFFFF).toNat = b.toNat % 2 ^ 52 := by
    rw [UInt64.toNat_and]
    exact Nat.and_two_pow_sub_one_eq_mod _ 52
  unfold Binary.ofBits
  simp only [hbiased, hfraction, Nat.pow_eq]
  by_cases hfull : 2 ^ 52 ≤ m
  · rw [if_pos hfull] at hbits
    have h₁ : b.toNat / 2 ^ 52 % 2 ^ 11 = (e + 1075).toNat := by omega
    have h₂ : b.toNat % 2 ^ 52 = m - 2 ^ 52 := by omega
    have hne : (e + 1075).toNat ≠ 0 := by omega
    rw [h₁, h₂, if_neg hne]
    rw [Binary.mk.injEq]
    refine ⟨by omega, by omega, ?_⟩
    rw [Bool.eq_iff_iff]
    simp only [Bool.and_eq_true, decide_eq_true_eq]
    omega
  · rw [if_neg hfull] at hbits
    have he := h.full.resolve_left hfull
    have h₁ : b.toNat / 2 ^ 52 % 2 ^ 11 = 0 := by omega
    have h₂ : b.toNat % 2 ^ 52 = m := by omega
    rw [h₁, h₂, if_pos rfl, he]
    simp

/-! ### Floats that are no numbers -/

def infinite (s : Sign) : Float :=
  .ofModel (.pack (.infinity s))

def notANumber : Float :=
  .ofModel (.pack .notANumber)

theorem unpack_eq_of_not_finite {x : Float} (hx : x.isFinite = false) :
    @unpackExponent Format.binary64 x.toBits.toBitVec = -1#_ := by
  by_contra hones
  change (UnpackedFloat.unpack Format.binary64 x.toBits.toBitVec).isFinite = false at hx
  unfold UnpackedFloat.unpack at hx
  simp only [hones, ↓reduceIte] at hx
  split at hx
  · split at hx <;> exact Bool.noConfusion hx
  · exact Bool.noConfusion hx

theorem eq_infinite_or_eq_notANumber {x : Float} (hx : x.isFinite = false) :
    (∃ s, x = infinite s) ∨ x = notANumber := by
  have hones := unpack_eq_of_not_finite hx
  by_cases hzero : @unpackMantissa Format.binary64 x.toBits.toBitVec = 0#_
  · left
    have hexp := toNat_unpackExponent x.toBits.toBitVec
    have hman := toNat_unpackMantissa x.toBits.toBitVec
    have hsign := toNat_ofBitVec (@unpackSign Format.binary64 x.toBits.toBitVec)
    have hlt := x.toBits.toBitVec.isLt
    rw [toNat_unpackSign] at hsign
    rw [hones] at hexp
    rw [hzero] at hman
    change 2047 = _ at hexp
    change 0 = _ at hman
    generalize Sign.ofBitVec (@unpackSign Format.binary64 x.toBits.toBitVec) = s at hsign
    have hbits :
        (infinite s).toBits.toBitVec.toNat = s.toBitVec.toNat * 2 ^ 63 + 2047 * 2 ^ 52 := by
      cases s <;> rfl
    refine ⟨s, eq_of_toNat_eq ?_⟩
    rw [hbits, hsign]
    omega
  · right
    apply eq_of_toNat_eq
    have hcanonical := x.toModel.valid.eq_packedNaN hones hzero
    exact congrArg BitVec.toNat hcanonical

end MapMarkup.Decimal
