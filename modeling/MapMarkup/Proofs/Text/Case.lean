import Mathlib
import MapMarkup.Text.Case

/-!
# Case of ASCII letters

Texts that differ in the case of ASCII letters alone have the same upper case
(`upperChars_eq_of_toLower`). The lower case of a text can be a word of small ASCII letters only
if the text is that word in any ASCII case, because no other character is lowered to such a letter
but the Kelvin sign, whose letter is `k` (`lowerChars_eq_iff`).
-/

namespace MapMarkup.Text

/-! ### ASCII letters -/

theorem toLower_of_not_upper {c : Char} (h : c.toNat < 65 ∨ 90 < c.toNat) : c.toLower = c := by
  unfold Char.toLower
  rw [dif_neg]
  rintro ⟨hlow, hhigh⟩
  change 65 ≤ c.toNat at hlow
  change c.toNat ≤ 90 at hhigh
  omega

theorem forall_ascii {P : Char → Prop} (h : ∀ n : Fin 128, P (Char.ofNat n)) {c : Char}
    (hc : c.toNat < 128) : P c := by
  have hchar := h ⟨c.toNat, hc⟩
  rwa [Char.ofNat_toNat] at hchar

theorem upperChar_toLower (c : Char) : upperChar c.toLower = upperChar c := by
  by_cases hc : 65 ≤ c.toNat ∧ c.toNat ≤ 90
  · have hcapitals : ∀ n : Fin 26, upperChar (Char.ofNat (65 + n)).toLower
        = upperChar (Char.ofNat (65 + n)) := by
      decide +kernel
    have hchar := hcapitals ⟨c.toNat - 65, by omega⟩
    rwa [Nat.add_sub_cancel' hc.1, Char.ofNat_toNat] at hchar
  · rw [toLower_of_not_upper (by omega)]

theorem upperChars_map_toLower (cs : List Char) :
    upperChars (cs.map Char.toLower) = upperChars cs := by
  unfold upperChars
  rw [List.flatMap_map]
  exact List.flatMap_congr fun c _ => upperChar_toLower c

theorem upperChars_eq_of_toLower {cs ds : List Char}
    (h : cs.map Char.toLower = ds.map Char.toLower) : upperChars cs = upperChars ds := by
  rw [← upperChars_map_toLower cs, h, upperChars_map_toLower]

/-! ### Lower case -/

theorem mapCase_cases (sequences : List (Nat × List Nat)) (runs : List (Nat × Nat × Nat × Int))
    (c : Char) :
    (∃ several, (c.toNat, several) ∈ sequences
      ∧ mapCase sequences runs c = several.map Char.ofNat)
    ∨ (∃ r ∈ runs, r.1 ≤ c.toNat ∧ c.toNat ≤ r.2.1
      ∧ mapCase sequences runs c = [Char.ofNat ((c.toNat : Int) + r.2.2.2).toNat])
    ∨ mapCase sequences runs c = [c] := by
  unfold mapCase
  cases hlookup : sequences.lookup c.toNat with
  | some several =>
    obtain ⟨before, after, hsequences, _⟩ := List.lookup_eq_some_iff.mp hlookup
    have hmem : (c.toNat, several) ∈ sequences := by
      rw [hsequences]
      exact List.mem_append_right _ List.mem_cons_self
    exact .inl ⟨several, hmem, rfl⟩
  | none =>
    dsimp only
    split
    case h_1 r hfind =>
      have hrun := List.find?_some hfind
      simp only [Bool.and_eq_true, decide_eq_true_eq] at hrun
      exact .inr (.inl ⟨r, List.mem_of_find?_eq_some hfind, hrun.1.1, hrun.1.2, rfl⟩)
    case h_2 => exact .inr (.inr rfl)

/-- A run of characters past ASCII is lowered to characters past ASCII, the Kelvin sign apart. -/
theorem lowerRuns_far : ∀ r ∈ lowerRuns, r.2.1 < 128 ∨ r = (0x212A, 0x212A, 1, -8383)
    ∨ (128 ≤ (r.1 : Int) + r.2.2.2 ∧ ((r.2.1 : Int) + r.2.2.2 < 0xD800
      ∨ (0xE000 ≤ (r.1 : Int) + r.2.2.2 ∧ (r.2.1 : Int) + r.2.2.2 < 0x110000))) := by
  decide +kernel

theorem toNat_ofNat_of_valid {n : Nat} (h : n < 0xD800 ∨ (0xE000 ≤ n ∧ n < 0x110000)) :
    (Char.ofNat n).toNat = n := by
  have hvalid : n.isValidChar := by omega
  rw [Char.ofNat, dif_pos hvalid]
  rfl

theorem exists_mem_lowerChar {c : Char} (hc : 128 ≤ c.toNat) :
    ∃ d ∈ lowerChar c, 128 ≤ d.toNat ∨ d = 'k' := by
  rcases mapCase_cases lowerSequences lowerRuns c with
    ⟨several, hmem, heq⟩ | ⟨r, hr, hlow, hhigh, heq⟩ | heq
  · have hsequences : ∀ e ∈ lowerSequences, Char.ofNat 0x307 ∈ e.2.map Char.ofNat := by decide
    refine ⟨Char.ofNat 0x307, ?_, .inl (by decide)⟩
    rw [lowerChar, heq]
    exact hsequences _ hmem
  · refine ⟨_, by rw [lowerChar, heq]; exact List.mem_singleton_self _, ?_⟩
    rcases lowerRuns_far r hr with hascii | rfl | ⟨hfar, hvalid⟩
    · omega
    · have hkelvin : c.toNat = 0x212A := le_antisymm hhigh hlow
      rw [hkelvin]
      exact .inr (by decide)
    · left
      rw [toNat_ofNat_of_valid (by omega)]
      omega
  · exact ⟨c, by rw [lowerChar, heq]; exact List.mem_singleton_self c, .inl hc⟩

theorem exists_mem_lowerFrom {before cs : List Char} {c : Char} (hmem : c ∈ cs)
    (hc : 128 ≤ c.toNat) : ∃ d ∈ lowerFrom before cs, 128 ≤ d.toNat ∨ d = 'k' := by
  induction cs generalizing before with
  | nil => cases hmem
  | cons first rest ih =>
    rw [lowerFrom]
    rcases List.mem_cons.mp hmem with rfl | hrest
    · split
      · refine ⟨_, List.mem_append_left _ (List.mem_singleton_self _), .inl ?_⟩
        split <;> decide
      · obtain ⟨d, hd, hfar⟩ := exists_mem_lowerChar hc
        exact ⟨d, List.mem_append_left _ hd, hfar⟩
    · obtain ⟨d, hd, hfar⟩ := ih hrest
      exact ⟨d, List.mem_append_right _ hd, hfar⟩

theorem lowerFrom_of_ascii {before cs : List Char} (h : ∀ c ∈ cs, c.toNat < 128) :
    lowerFrom before cs = cs.map Char.toLower := by
  induction cs generalizing before with
  | nil => rfl
  | cons c rest ih =>
    rw [List.forall_mem_cons] at h
    have hlower : c ≠ 'Σ' ∧ lowerChar c = [c.toLower] :=
      forall_ascii (P := fun c => c ≠ 'Σ' ∧ lowerChar c = [c.toLower]) (by decide +kernel) h.1
    rw [lowerFrom, if_neg hlower.1, hlower.2, ih h.2]
    rfl

/-- A text is lowered to an ASCII word without `k` exactly if it is that word in any ASCII case. -/
theorem lowerChars_eq_iff {cs word : List Char} (hword : ∀ d ∈ word, d.toNat < 128 ∧ d ≠ 'k') :
    lowerChars cs = word ↔ cs.map Char.toLower = word := by
  have hascii (h : lowerChars cs = word ∨ cs.map Char.toLower = word) :
      ∀ c ∈ cs, c.toNat < 128 := by
    intro c hc
    by_contra hfar
    rcases h with h | h
    · obtain ⟨d, hd, hd'⟩ := @exists_mem_lowerFrom [] cs c hc (Nat.le_of_not_lt hfar)
      have := hword d (h ▸ hd)
      rcases hd' with hd' | hd'
      · omega
      · exact this.2 hd'
    · have hmem := List.mem_map_of_mem (f := Char.toLower) hc
      rw [toLower_of_not_upper (by omega), h] at hmem
      exact hfar (hword c hmem).1
  constructor
  · intro h
    rw [← h, lowerChars, lowerFrom_of_ascii (hascii (.inl h))]
  · intro h
    rw [← h, lowerChars, lowerFrom_of_ascii (hascii (.inr h))]

end MapMarkup.Text
