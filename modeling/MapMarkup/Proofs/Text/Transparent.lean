import MapMarkup.Proofs.Text.Percent

/-!
# Texts that pass through a form

A text put into a form as it stands, without any encoding, is read as itself only if it is
transparent: it holds no `&`, and decoding leaves it alone. Nothing else will do
(`formPairs_eq_singleton_iff`). One might think that decoding could bring back what a `&` cut off,
but it never adds to the marks `&` and `%` of a text, because it makes at most one mark out of
every `%` that it takes away (`marks_formDecode_le`).

What a form says is what its pieces say one by one (`formPairs_joinFields`): a piece may bring pairs
of its own, and does not change those of another.
-/

namespace MapMarkup.Text

/-- A text that is read as itself in a form. -/
def IsTransparent (cs : List Char) : Prop :=
  '&' ∉ cs ∧ formDecode cs = cs

instance (cs : List Char) : Decidable (IsTransparent cs) :=
  inferInstanceAs (Decidable (_ ∧ _))

/-! ### Marks -/

def marks (cs : List Char) : Nat :=
  cs.countP fun c => c = '&' || c = '%'

def markBytes (bs : List UInt8) : Nat :=
  bs.countP fun b => b = 38 || b = 37

theorem exists_of_continueChar {owed code n read : Nat} {low high : UInt8} {bytes : List UInt8}
    (h : continueChar (owed + 1) low high code bytes = (some n, read)) :
    ∃ (b : UInt8) (rest : List UInt8) (read' : Nat), low.toNat ≤ b.toNat
      ∧ continueChar owed 0x80 0xBF (64 * code + (b.toNat - 0x80)) rest = (some n, read') := by
  cases bytes with
  | nil => cases h
  | cons b rest =>
      rw [continueChar] at h
      split at h
      case isTrue hwithin =>
        have hlow := (Bool.and_eq_true_iff.mp hwithin).1
        rw [decide_eq_true_eq, UInt8.le_iff_toNat_le] at hlow
        exact ⟨b, rest, _, hlow, Prod.ext (Prod.mk.inj h).1 rfl⟩
      case isFalse => cases h

theorem le_of_continueChar {owed code n read : Nat} {low high : UInt8} {bytes : List UInt8}
    (h : continueChar owed low high code bytes = (some n, read)) : code ≤ n := by
  induction owed generalizing low high code bytes read with
  | zero =>
      rw [continueChar_zero] at h
      cases h
      exact Nat.le_refl _
  | succ owed ih =>
      obtain ⟨b, rest, read', _, hrest⟩ := exists_of_continueChar h
      have := ih hrest
      omega

/-- The first byte of a character of several bytes puts the character out of the reach of one byte,
together with the range of the next byte. -/
theorem leadByte_bounds : ∀ b : UInt8, ∀ owed low high code,
    leadByte b = some (owed + 1, low, high, code) →
      128 ≤ 64 * code + (low.toNat - 128) ∨ (1 ≤ owed ∧ 2 ≤ 64 * code + (low.toNat - 128)) := by
  have hall : ∀ b : UInt8, ∀ shape ∈ leadByte b, shape.1 = 0
      ∨ 128 ≤ 64 * shape.2.2.2 + (shape.2.1.toNat - 128)
      ∨ (2 ≤ shape.1 ∧ 2 ≤ 64 * shape.2.2.2 + (shape.2.1.toNat - 128)) :=
    forall_byte (by decide +kernel)
  intro b owed low high code h
  rcases hall b _ h with hzero | hfar | ⟨howed, hfar⟩
  · cases hzero
  · exact .inl hfar
  · exact .inr ⟨Nat.le_of_succ_le_succ howed, hfar⟩

theorem leadByte_zero : ∀ b : UInt8, ∀ low high code,
    leadByte b = some (0, low, high, code) → code = b.toNat := by
  have hall : ∀ b : UInt8, ∀ shape ∈ leadByte b, shape.1 = 0 → shape.2.2.2 = b.toNat :=
    forall_byte (by decide +kernel)
  intro b low high code h
  exact hall b _ h rfl

theorem le_of_long_char {b low high : UInt8} {owed code n read : Nat} {rest : List UInt8}
    (hlead : leadByte b = some (owed + 1, low, high, code))
    (h : continueChar (owed + 1) low high code rest = (some n, read)) : 128 ≤ n := by
  obtain ⟨x, rest, read', hlow, h⟩ := exists_of_continueChar h
  rcases leadByte_bounds b owed low high code hlead with hfar | ⟨howed, hfar⟩
  · have := le_of_continueChar h
    omega
  · obtain ⟨owed, rfl⟩ := Nat.exists_eq_add_of_le' howed
    obtain ⟨y, rest, read'', _, h⟩ := exists_of_continueChar h
    have := le_of_continueChar h
    omega

theorem toNat_eq_of_firstChar {b : UInt8} {rest : List UInt8} {c : Char} {read : Nat}
    (h : firstChar b rest = (c, read)) (hc : 0 < c.toNat ∧ c.toNat < 128) : b.toNat = c.toNat := by
  have hvalue : ∀ n, Char.ofNat n = c → n = c.toNat := by
    rintro n rfl
    rw [Char.toNat_ofNat] at hc ⊢
    split at hc
    case isTrue hvalid => rw [if_pos hvalid]
    case isFalse => exact absurd hc.1 (Nat.lt_irrefl 0)
  unfold firstChar at h
  cases hlead : leadByte b with
  | none =>
      rw [hlead] at h
      cases h
      exact absurd hc.2 (by decide)
  | some shape =>
      obtain ⟨owed, low, high, code⟩ := shape
      rw [hlead] at h
      dsimp only at h
      cases owed with
      | zero =>
          rw [continueChar_zero] at h
          cases h
          rw [← leadByte_zero b _ _ _ hlead]
          exact hvalue code rfl
      | succ owed =>
          exfalso
          cases hgoes : continueChar (owed + 1) low high code rest with
          | mk code? read' =>
              rw [hgoes] at h
              cases code? with
              | none =>
                  have hreplaced : replacement = c := congrArg Prod.fst h
                  rw [← hreplaced] at hc
                  exact absurd hc.2 (by decide)
              | some n =>
                  have hn : n = c.toNat := hvalue n (congrArg Prod.fst h)
                  have hlong := le_of_long_char hlead hgoes
                  omega

theorem isMark_of_firstChar {b : UInt8} {rest : List UInt8} {c : Char} {read : Nat}
    (h : firstChar b rest = (c, read)) (hc : (c = '&' || c = '%') = true) :
    (b = 38 || b = 37) = true := by
  rw [Bool.or_eq_true, decide_eq_true_eq, decide_eq_true_eq] at hc ⊢
  rcases hc with rfl | rfl
  · exact .inl (UInt8.toNat_inj.mp (toNat_eq_of_firstChar h (by decide)))
  · exact .inr (UInt8.toNat_inj.mp (toNat_eq_of_firstChar h (by decide)))

theorem marks_ofBytes_le (bs : List UInt8) : marks (ofBytes bs) ≤ markBytes bs := by
  fun_induction ofBytes bs with
  | case1 => exact Nat.le_refl 0
  | case2 b rest c read hfirst ih =>
      have hdrop : markBytes (rest.drop read) ≤ markBytes rest :=
        (List.drop_sublist read rest).countP_le
      unfold marks markBytes at *
      rw [List.countP_cons, List.countP_cons]
      by_cases hc : (c = '&' || c = '%') = true
      · rw [if_pos hc, if_pos (isMark_of_firstChar hfirst hc)]
        omega
      · rw [if_neg hc]
        omega

theorem markBytes_percentDecodeBytes_le (bs : List UInt8) :
    markBytes (percentDecodeBytes bs) ≤ markBytes bs := by
  fun_induction percentDecodeBytes bs with
  | case1 => exact Nat.le_refl _
  | case2 => exact Nat.le_refl _
  | case3 => exact Nat.le_refl _
  | case4 a x y tail byte htriple ih =>
      have ha : a = 37 := by
        unfold percentTriple? at htriple
        split at htriple
        case isTrue ha => exact ha
        case isFalse => cases htriple
      unfold markBytes at *
      rw [ha, List.countP_cons, List.countP_cons, List.countP_cons, List.countP_cons,
        if_pos (by decide : ((37 : UInt8) = 38 || (37 : UInt8) = 37) = true)]
      split <;> omega
  | case5 a x y tail _ ih =>
      unfold markBytes at *
      rw [List.countP_cons, List.countP_cons]
      omega

theorem markBytes_map_plus (bs : List UInt8) :
    markBytes (bs.map fun b => if b = 43 then 32 else b) = markBytes bs := by
  unfold markBytes
  rw [List.countP_map]
  refine List.countP_congr fun b _ => ?_
  rw [Function.comp_apply]
  split
  case isTrue hb => rw [hb]; decide
  case isFalse => rfl

/-- A character is written as its number, or as bytes that are no characters by themselves. -/
theorem utf8EncodeChar_cases (c : Char) :
    (c.toNat < 128 ∧ String.utf8EncodeChar c = [UInt8.ofNat c.toNat])
      ∨ ∀ b ∈ String.utf8EncodeChar c, 128 ≤ b.toNat := by
  have hhigh (k : Nat) (hk : 128 ≤ k % 256) : 128 ≤ (UInt8.ofNat k).toNat := by
    rwa [UInt8.toNat_ofNat']
  have hv : c.val.toNat = c.toNat := rfl
  unfold String.utf8EncodeChar
  rw [hv]
  dsimp only
  split
  case isTrue h => exact .inl ⟨Nat.lt_succ_of_le h, rfl⟩
  case isFalse =>
    right
    split
    · simp only [List.forall_mem_cons]
      exact ⟨hhigh _ (by omega), hhigh _ (by omega), by simp⟩
    · split
      · simp only [List.forall_mem_cons]
        exact ⟨hhigh _ (by omega), hhigh _ (by omega), hhigh _ (by omega), by simp⟩
      · simp only [List.forall_mem_cons]
        exact ⟨hhigh _ (by omega), hhigh _ (by omega), hhigh _ (by omega), hhigh _ (by omega),
          by simp⟩

theorem markBytes_utf8EncodeChar_le (c : Char) :
    markBytes (String.utf8EncodeChar c) ≤ marks [c] := by
  unfold marks markBytes
  rcases utf8EncodeChar_cases c with ⟨hlow, hbyte⟩ | hhigh
  · rw [hbyte, List.countP_singleton, List.countP_singleton]
    have hback : (UInt8.ofNat c.toNat).toNat = c.toNat := by
      rw [UInt8.toNat_ofNat']
      omega
    split
    case isTrue hmark =>
      rw [Bool.or_eq_true, decide_eq_true_eq, decide_eq_true_eq] at hmark
      have hc : c = '&' ∨ c = '%' := by
        refine hmark.imp (fun h => ?_) fun h => ?_ <;>
        · rw [h] at hback
          exact Char.toNat_inj.mp hback.symm
      rw [if_pos (by simpa using hc)]
    case isFalse => exact Nat.zero_le _
  · rw [List.countP_eq_zero.mpr]
    · exact Nat.zero_le _
    · intro b hb hmark
      have := hhigh b hb
      rw [Bool.or_eq_true, decide_eq_true_eq, decide_eq_true_eq] at hmark
      rcases hmark with rfl | rfl <;> exact absurd this (by decide)

theorem markBytes_bytesOf_le (cs : List Char) : markBytes (bytesOf cs) ≤ marks cs := by
  induction cs with
  | nil => exact Nat.le_refl 0
  | cons c cs ih =>
      have hc := markBytes_utf8EncodeChar_le c
      unfold marks markBytes bytesOf at *
      rw [List.flatMap_cons, List.countP_append, List.countP_cons]
      rw [List.countP_singleton] at hc
      omega

/-- Decoding does not add to the marks of a text. -/
theorem marks_formDecode_le (cs : List Char) : marks (formDecode cs) ≤ marks cs :=
  calc marks (formDecode cs)
      ≤ markBytes (percentDecodeBytes ((bytesOf cs).map fun b => if b = 43 then 32 else b)) :=
        marks_ofBytes_le _
    _ ≤ markBytes ((bytesOf cs).map fun b => if b = 43 then 32 else b) :=
        markBytes_percentDecodeBytes_le _
    _ = markBytes (bytesOf cs) := markBytes_map_plus _
    _ ≤ marks cs := markBytes_bytesOf_le cs

theorem formDecode_ne_append_cons (before after : List Char) :
    formDecode before ≠ before ++ '&' :: after := by
  intro h
  have hle := marks_formDecode_le before
  rw [h, marks, marks, List.countP_append, List.countP_cons_of_pos (by decide)] at hle
  omega

/-! ### Forms -/

theorem flatMap_eq_self_iff {α : Type} {f : α → List α} {l : List α} (hne : ∀ x ∈ l, f x ≠ []) :
    l.flatMap f = l ↔ ∀ x ∈ l, f x = [x] := by
  induction l with
  | nil => simp
  | cons x xs ih =>
      rw [List.forall_mem_cons] at hne ⊢
      have ih := ih hne.2
      have hlong : xs.length ≤ (xs.flatMap f).length := by
        rw [List.length_flatMap, ← List.length_map (fun x => (f x).length)]
        refine List.length_le_sum_of_one_le _ fun n hn => ?_
        obtain ⟨y, hy, rfl⟩ := List.mem_map.mp hn
        exact List.length_pos_of_ne_nil (hne.2 y hy)
      constructor
      · intro h
        obtain ⟨y, ys, hx⟩ := List.exists_cons_of_ne_nil hne.1
        rw [List.flatMap_cons, hx, List.cons_append] at h
        obtain ⟨rfl, htail⟩ := List.cons.inj h
        have hys : ys = [] := by
          have hlength := congrArg List.length htail
          rw [List.length_append] at hlength
          exact List.length_eq_zero_iff.mp (by omega)
        rw [hys, List.nil_append] at htail
        rw [hx, hys]
        exact ⟨rfl, ih.mp htail⟩
      · rintro ⟨hx, hxs⟩
        rw [List.flatMap_cons, hx, ih.mpr hxs, List.singleton_append]

theorem formPairs_append_cons (cs ds : List Char) :
    formPairs (cs ++ '&' :: ds) = formPairs cs ++ formPairs ds := by
  unfold formPairs
  rw [splitFields_append_cons, List.filter_append, List.map_append]

theorem formPairs_joinFields (parts : List (List Char)) :
    formPairs (joinFields '&' parts) = parts.flatMap formPairs := by
  induction parts with
  | nil => rfl
  | cons part parts ih =>
      cases parts with
      | nil => rw [joinFields, List.flatMap_singleton]
      | cons next parts =>
          rw [List.flatMap_cons, ← ih, joinFields, formPairs_append_cons]
          simp

theorem formPairs_of_field {text value : List Char} (htext : '&' ∉ text) (hvalue : '&' ∉ value) :
    formPairs (text ++ '=' :: value) = [formPair (text ++ '=' :: value)] := by
  have hwhole : '&' ∉ text ++ '=' :: value := by
    rw [List.mem_append, List.mem_cons, not_or, not_or]
    exact ⟨htext, by decide, hvalue⟩
  rw [formPairs, splitFields_of_notMem hwhole, List.filter_cons_of_pos (by simp), List.filter_nil,
    List.map_singleton]

theorem formPairs_of_notMem {name value : List Char} (hname : '&' ∉ name ∧ '=' ∉ name)
    (hvalue : '&' ∉ value) : formPairs (name ++ '=' :: value)
      = [(String.ofList (formDecode name), String.ofList (formDecode value))] := by
  rw [formPairs_of_field hname.1 hvalue, formPair, splitFirst_append hname.2, Option.getD_some]

/-- A name with a text gives a pair of the name, with what the text holds before its first `&`, and
what comes after that says more. -/
theorem formPairs_of_mem {name value : List Char} (hname : '&' ∉ name ∧ '=' ∉ name)
    (hvalue : '&' ∈ value) : ∃ before after, value = before ++ '&' :: after
      ∧ formPairs (name ++ '=' :: value)
        = (String.ofList (formDecode name), String.ofList (formDecode before))
          :: formPairs after := by
  obtain ⟨before, after, rfl, hbefore⟩ := List.eq_append_cons_of_mem hvalue
  refine ⟨before, after, rfl, ?_⟩
  have hsplit : name ++ '=' :: (before ++ '&' :: after)
      = (name ++ '=' :: before) ++ '&' :: after := by
    rw [List.append_assoc, List.cons_append]
  rw [hsplit, formPairs_append_cons, formPairs_of_notMem hname hbefore, List.singleton_append]

theorem formPairs_ne_nil {name : List Char} (hname : '&' ∉ name ∧ '=' ∉ name)
    (value : List Char) : formPairs (name ++ '=' :: value) ≠ [] := by
  by_cases hvalue : '&' ∈ value
  · obtain ⟨before, after, _, hpairs⟩ := formPairs_of_mem hname hvalue
    rw [hpairs]
    exact List.cons_ne_nil _ _
  · rw [formPairs_of_notMem hname hvalue]
    exact List.cons_ne_nil _ _

/-- A name with a text is read as one pair and no other exactly when the text is transparent. -/
theorem formPairs_eq_singleton_iff {name value : List Char} (hname : '&' ∉ name ∧ '=' ∉ name)
    (hplain : formDecode name = name) :
    formPairs (name ++ '=' :: value) = [(String.ofList name, String.ofList value)]
      ↔ IsTransparent value := by
  by_cases hvalue : '&' ∈ value
  · obtain ⟨before, after, rfl, hpairs⟩ := formPairs_of_mem hname hvalue
    rw [hpairs]
    constructor
    · intro h
      have hdecoded := (Prod.mk.inj (List.cons.inj h).1).2
      exact absurd (String.ofList_injective hdecoded) (formDecode_ne_append_cons before after)
    · intro h
      exact absurd hvalue h.1
  · rw [formPairs_of_notMem hname hvalue, hplain]
    constructor
    · intro h
      exact ⟨hvalue, String.ofList_injective (Prod.mk.inj (List.cons.inj h).1).2⟩
    · intro h
      rw [h.2]

end MapMarkup.Text
