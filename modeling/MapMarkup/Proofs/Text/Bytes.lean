import Mathlib
import MapMarkup.Text.Bytes

/-!
# The bytes of a text stand for the text

Reading bytes is lossy in general, but not on the UTF-8 of a text: `ofBytes_bytesOf`. A character is
written as a first byte that announces how many bytes follow and as those bytes; the first byte also
narrows the range of the next one, and a character that is not in its shortest form or is a
surrogate would fall outside of that range.
-/

namespace MapMarkup.Text

/-! ### First bytes -/

theorem leadByte_one : ∀ k : Fin 128,
    leadByte (UInt8.ofNat k.val) = some (0, 0, 0, k.val) := by
  decide

theorem leadByte_two : ∀ k : Fin 32, 2 ≤ k.val →
    leadByte (UInt8.ofNat (k.val + 0xC0)) = some (1, 0x80, 0xBF, k.val) := by
  decide

theorem leadByte_three : ∀ k : Fin 16, leadByte (UInt8.ofNat (k.val + 0xE0))
    = some (2, if k.val = 0 then 0xA0 else 0x80, if k.val = 13 then 0x9F else 0xBF, k.val) := by
  decide

theorem leadByte_four : ∀ k : Fin 5, leadByte (UInt8.ofNat (k.val + 0xF0))
    = some (3, if k.val = 0 then 0x90 else 0x80, if k.val = 4 then 0x8F else 0xBF, k.val) := by
  decide

/-! ### Following bytes -/

theorem continueChar_cons {t : Nat} (ht : t < 64) {low high : UInt8}
    (hlow : low.toNat ≤ t + 0x80) (hhigh : t + 0x80 ≤ high.toNat) (owed code : Nat)
    (rest : List UInt8) :
    continueChar (owed + 1) low high code (UInt8.ofNat (t + 0x80) :: rest)
      = ((continueChar owed 0x80 0xBF (64 * code + t) rest).1,
        (continueChar owed 0x80 0xBF (64 * code + t) rest).2 + 1) := by
  have hbyte : (UInt8.ofNat (t + 0x80)).toNat = t + 0x80 := by
    rw [UInt8.toNat_ofNat', Nat.mod_eq_of_lt (by omega)]
  have hwithin : within low high (UInt8.ofNat (t + 0x80)) = true := by
    unfold within
    rw [Bool.and_eq_true, decide_eq_true_eq, decide_eq_true_eq, UInt8.le_iff_toNat_le,
      UInt8.le_iff_toNat_le, hbyte]
    exact ⟨hlow, hhigh⟩
  rw [continueChar, if_pos hwithin, hbyte, Nat.add_sub_cancel]

theorem continueChar_zero (low high : UInt8) (code : Nat) (rest : List UInt8) :
    continueChar 0 low high code rest = (some code, 0) := by
  rw [continueChar]

/-! ### Characters -/

theorem char_toNat_bounds (c : Char) : c.toNat < 0xD800 ∨ (0xDFFF < c.toNat ∧ c.toNat < 0x110000) :=
  c.valid

theorem firstChar_utf8EncodeChar (c : Char) (rest : List UInt8) :
    ∃ b tail, String.utf8EncodeChar c = b :: tail
      ∧ firstChar b (tail ++ rest) = (c, tail.length) := by
  have hv : c.val.toNat = c.toNat := rfl
  have hbounds := char_toNat_bounds c
  have hback : Char.ofNat c.toNat = c := Char.ofNat_toNat c
  unfold String.utf8EncodeChar
  rw [hv]
  dsimp only
  generalize hn : c.toNat = v at *
  split
  case isTrue h =>
    refine ⟨_, [], rfl, ?_⟩
    have hlead := leadByte_one ⟨v, by omega⟩
    unfold firstChar
    rw [hlead]
    simp [continueChar_zero, hback]
  case isFalse h₁ =>
    split
    case isTrue h =>
      refine ⟨_, _, rfl, ?_⟩
      have hlead := leadByte_two ⟨v / 64 % 0x20, by omega⟩ (by dsimp only; omega)
      have htail : v % 0x40 < 64 := Nat.mod_lt _ (by decide)
      unfold firstChar
      rw [hlead]
      dsimp only
      rw [List.cons_append, List.nil_append, continueChar_cons htail (by simp) (by simp; omega),
        continueChar_zero, show 64 * (v / 64 % 0x20) + v % 0x40 = v by omega]
      simp [hback]
    case isFalse h₂ =>
      split
      case isTrue h =>
        refine ⟨_, _, rfl, ?_⟩
        have hlead := leadByte_three ⟨v / 4096 % 0x10, by omega⟩
        unfold firstChar
        rw [hlead]
        dsimp only
        rw [List.cons_append, List.cons_append, List.nil_append,
          continueChar_cons (Nat.mod_lt _ (by decide)) (by split <;> simp; omega)
            (by split <;> simp <;> omega),
          continueChar_cons (Nat.mod_lt _ (by decide)) (by simp) (by simp; omega),
          continueChar_zero,
          show 64 * (64 * (v / 4096 % 0x10) + v / 64 % 0x40) + v % 0x40 = v by omega]
        simp [hback]
      case isFalse h₃ =>
        refine ⟨_, _, rfl, ?_⟩
        have hlead := leadByte_four ⟨v / 262144 % 0x08, by omega⟩
        unfold firstChar
        rw [hlead]
        dsimp only
        rw [List.cons_append, List.cons_append, List.cons_append, List.nil_append,
          continueChar_cons (Nat.mod_lt _ (by decide)) (by split <;> simp; omega)
            (by split <;> simp <;> omega),
          continueChar_cons (Nat.mod_lt _ (by decide)) (by simp) (by simp; omega),
          continueChar_cons (Nat.mod_lt _ (by decide)) (by simp) (by simp; omega),
          continueChar_zero,
          show 64 * (64 * (64 * (v / 262144 % 0x08) + v / 4096 % 0x40) + v / 64 % 0x40) + v % 0x40
            = v by omega]
        simp [hback]

theorem ofBytes_utf8EncodeChar_append (c : Char) (rest : List UInt8) :
    ofBytes (String.utf8EncodeChar c ++ rest) = c :: ofBytes rest := by
  obtain ⟨b, tail, hencode, hfirst⟩ := firstChar_utf8EncodeChar c rest
  rw [hencode, List.cons_append, ofBytes, hfirst]
  dsimp only
  rw [List.drop_left]

/-- The bytes of a text stand for the text. -/
theorem ofBytes_bytesOf (cs : List Char) : ofBytes (bytesOf cs) = cs := by
  induction cs with
  | nil => rw [bytesOf, List.flatMap_nil, ofBytes]
  | cons c cs ih =>
    rw [bytesOf, List.flatMap_cons, ofBytes_utf8EncodeChar_append, ← bytesOf, ih]

end MapMarkup.Text
