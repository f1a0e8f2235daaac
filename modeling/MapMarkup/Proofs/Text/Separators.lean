import MapMarkup.Proofs.Text.Percent

/-!
# Decoding around separators

The characters that separate the parts of a URL are decoded on their own: what stands before one
and what stands after it have no part in it, even if an escape or a character of several bytes
breaks off there (`formDecode_append_cons`). So a form holds as many question marks, in its names
and values, as its text has when it is decoded as a whole (`questions_formPairs`), and a form in
front of which something with a question mark has been put is never the form that it was
(`formPairs_append_ne`).
-/

namespace MapMarkup.Text

/-- A byte that is read as itself wherever it stands. -/
structure IsSeparator (b : UInt8) : Prop where
  ascii : b.toNat < 128
  not_percent : b ≠ 37
  not_plus : b ≠ 43
  not_hex : hexValue? b = none

/-! ### Escapes -/

section

variable {b : UInt8}

theorem percentDecodeBytes_cons_of_none {a : UInt8} {rest : List UInt8}
    (h : ∀ x y tail, rest = x :: y :: tail → percentTriple? a x y = none) :
    percentDecodeBytes (a :: rest) = a :: percentDecodeBytes rest := by
  match rest with
  | [] => rfl
  | [x] => rfl
  | x :: y :: tail => rw [percentDecodeBytes, h x y tail rfl]

theorem percentTriple?_separator (hb : IsSeparator b) (a x : UInt8) :
    percentTriple? a b x = none ∧ percentTriple? a x b = none := by
  unfold percentTriple?
  rw [hb.not_hex]
  constructor
  · split <;> rfl
  · split
    · cases hexValue? x <;> rfl
    · rfl

theorem percentDecodeBytes_append_cons (hb : IsSeparator b) (xs ys : List UInt8) :
    percentDecodeBytes (xs ++ b :: ys) = percentDecodeBytes xs ++ b :: percentDecodeBytes ys := by
  have hself : percentDecodeBytes (b :: ys) = b :: percentDecodeBytes ys :=
    percentDecodeBytes_cons hb.not_percent ys
  have hlast (a : UInt8) :
      percentDecodeBytes (a :: b :: ys) = a :: b :: percentDecodeBytes ys := by
    rw [percentDecodeBytes_cons_of_none, hself]
    rintro _ y tail ⟨⟩
    exact (percentTriple?_separator hb a y).1
  fun_induction percentDecodeBytes xs with
  | case1 => exact hself
  | case2 a => exact hlast a
  | case3 a x =>
    rw [List.cons_append, List.singleton_append, percentDecodeBytes_cons_of_none, hlast]
    · rfl
    · rintro _ _ _ ⟨⟩
      exact (percentTriple?_separator hb a x).2
  | case4 a x y tail byte htriple ih =>
    simp only [List.cons_append]
    rw [percentDecodeBytes, htriple, ih]
  | case5 a x y tail htriple ih =>
    simp only [List.cons_append] at ih ⊢
    rw [percentDecodeBytes, htriple, ih]

/-! ### Characters -/

theorem continueChar_append_cons (hb : b.toNat < 128) {owed code : Nat} {low high : UInt8}
    (hlow : 128 ≤ low.toNat) (xs ys : List UInt8) :
    continueChar owed low high code (xs ++ b :: ys) = continueChar owed low high code xs
      ∧ (continueChar owed low high code xs).2 ≤ xs.length := by
  induction owed generalizing low high code xs with
  | zero => simp [continueChar_zero]
  | succ owed ih =>
    cases xs with
    | nil =>
      have hout : within low high b = false := by
        have hbelow : ¬ low ≤ b := by
          rw [UInt8.le_iff_toNat_le]
          omega
        rw [within, decide_eq_false hbelow, Bool.false_and]
      rw [List.nil_append, continueChar, continueChar, hout]
      exact ⟨rfl, Nat.le_refl 0⟩
    | cons x xs =>
      obtain ⟨hsame, hread⟩ := @ih (64 * code + (x.toNat - 0x80)) 0x80 0xBF (by decide) xs
      rw [List.cons_append, continueChar, continueChar, hsame]
      split
      · exact ⟨rfl, Nat.succ_le_succ hread⟩
      · exact ⟨rfl, Nat.zero_le _⟩

theorem leadByte_low : ∀ b : UInt8, ∀ shape ∈ leadByte b, shape.1 = 0 ∨ 128 ≤ shape.2.1.toNat :=
  forall_byte (by decide +kernel)

theorem firstChar_append_cons (hb : b.toNat < 128) (x : UInt8) (xs ys : List UInt8) :
    firstChar x (xs ++ b :: ys) = firstChar x xs ∧ (firstChar x xs).2 ≤ xs.length := by
  unfold firstChar
  cases hlead : leadByte x with
  | none => exact ⟨rfl, Nat.zero_le _⟩
  | some shape =>
    obtain ⟨owed, low, high, code⟩ := shape
    rcases leadByte_low x _ hlead with hzero | hlow
    · cases hzero
      simp [continueChar_zero]
    · have hrest : continueChar owed low high code (xs ++ b :: ys)
            = continueChar owed low high code xs
          ∧ (continueChar owed low high code xs).2 ≤ xs.length :=
        continueChar_append_cons hb hlow xs ys
      dsimp only
      rw [hrest.1]
      exact ⟨rfl, hrest.2⟩

theorem firstChar_ascii (hb : b.toNat < 128) (ys : List UInt8) :
    firstChar b ys = (Char.ofNat b.toNat, 0) := by
  have hlead := leadByte_one ⟨b.toNat, hb⟩
  rw [UInt8.ofNat_toNat] at hlead
  unfold firstChar
  rw [hlead]
  simp [continueChar_zero]

theorem ofBytes_append_cons (hb : b.toNat < 128) (xs ys : List UInt8) :
    ofBytes (xs ++ b :: ys) = ofBytes xs ++ Char.ofNat b.toNat :: ofBytes ys := by
  fun_induction ofBytes xs with
  | case1 =>
    rw [List.nil_append, ofBytes, firstChar_ascii hb, List.nil_append]
    rfl
  | case2 x rest c read hfirst ih =>
    obtain ⟨hsame, hread⟩ := firstChar_append_cons hb x rest ys
    rw [hfirst] at hsame hread
    rw [List.cons_append, ofBytes, hsame]
    dsimp only
    rw [List.drop_append_of_le_length hread, ih, List.cons_append]

end

/-! ### Texts -/

def separators : List Char := ['?', '&', '=']

theorem isSeparator_of_mem {c : Char} (hc : c ∈ separators) : ∃ b, IsSeparator b
    ∧ String.utf8EncodeChar c = [b] ∧ Char.ofNat b.toNat = c := by
  simp only [separators, List.mem_cons, List.not_mem_nil, or_false] at hc
  rcases hc with rfl | rfl | rfl
  · exact ⟨63, ⟨by decide, by decide, by decide, by decide⟩, by decide, by decide⟩
  · exact ⟨38, ⟨by decide, by decide, by decide, by decide⟩, by decide, by decide⟩
  · exact ⟨61, ⟨by decide, by decide, by decide, by decide⟩, by decide, by decide⟩

/-- What stands on the two sides of a separator is decoded on its own. -/
theorem formDecode_append_cons {c : Char} (hc : c ∈ separators) (before after : List Char) :
    formDecode (before ++ c :: after) = formDecode before ++ c :: formDecode after := by
  obtain ⟨b, hb, hbytes, hchar⟩ := isSeparator_of_mem hc
  have hafter : bytesOf (c :: after) = b :: bytesOf after := by
    rw [bytesOf, List.flatMap_cons, hbytes]
    rfl
  unfold formDecode
  rw [bytesOf_append, hafter, List.map_append, List.map_cons, if_neg hb.not_plus,
    percentDecodeBytes_append_cons hb, ofBytes_append_cons hb.ascii, hchar]

theorem formDecode_nil : formDecode [] = [] := by
  simp [formDecode, bytesOf, percentDecodeBytes, ofBytes]

/-! ### Question marks -/

def questions (pairs : List (String × String)) : Nat :=
  (pairs.flatMap fun p => p.1.toList ++ p.2.toList).count '?'

theorem questions_formPair (piece : List Char) (rest : List (String × String)) :
    questions (formPair piece :: rest) = (formDecode piece).count '?' + questions rest := by
  have hpair : questions [formPair piece] = (formDecode piece).count '?' := by
    unfold formPair
    cases h : splitFirst '=' piece with
    | none => simp [questions, formDecode_nil]
    | some parts =>
      obtain ⟨name, value⟩ := parts
      rw [eq_append_of_splitFirst h, formDecode_append_cons (by decide)]
      simp [questions]
  rw [← hpair, ← List.singleton_append, questions, List.flatMap_append, List.count_append]
  rfl

theorem questions_filter_cons (field : List Char) (fields : List (List Char)) :
    questions (((field :: fields).filter (· ≠ [])).map formPair)
      = (formDecode field).count '?' + questions ((fields.filter (· ≠ [])).map formPair) := by
  cases field with
  | nil => simp [formDecode_nil]
  | cons c cs => rw [List.filter_cons_of_pos (by simp), List.map_cons, questions_formPair]

theorem questions_fields (fields : List (List Char)) :
    questions ((fields.filter (· ≠ [])).map formPair)
      = (formDecode (joinFields '&' fields)).count '?' := by
  induction fields with
  | nil =>
    rw [joinFields, formDecode_nil]
    rfl
  | cons field fields ih =>
    rw [questions_filter_cons, ih]
    cases fields with
    | nil => rw [joinFields, joinFields, formDecode_nil, List.count_nil, Nat.add_zero]
    | cons next fields =>
      have hjoin : joinFields '&' (field :: next :: fields)
          = field ++ '&' :: joinFields '&' (next :: fields) := rfl
      rw [hjoin, formDecode_append_cons (by decide), List.count_append,
        List.count_cons_of_ne (by decide)]

theorem questions_formPairs (cs : List Char) :
    questions (formPairs cs) = (formDecode cs).count '?' := by
  rw [formPairs, questions_fields, joinFields_splitFields]

/-- What follows a question mark is never the whole form, because the question mark and what it is
part of are missing from its pairs. -/
theorem formPairs_append_ne (before after : List Char) :
    formPairs (before ++ '?' :: after) ≠ formPairs after := by
  intro h
  have hcount := congrArg questions h
  rw [questions_formPairs, questions_formPairs, formDecode_append_cons (by decide),
    List.count_append, List.count_cons_self] at hcount
  omega

end MapMarkup.Text
