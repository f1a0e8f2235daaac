import MapMarkup.Proofs.Text.Bytes
import MapMarkup.Proofs.Text.Fields
import MapMarkup.Text.Percent

/-!
# Form fields read back

A percent-encoded text, read as a form field, is the text: `formDecode_percentChars`. Every byte is
written either as itself or as three characters that a decoder puts together again, and no plus sign
is ever written, so the reading of a plus as a space does not interfere. What is written holds none
of the characters that separate the parts of a query string (`notMem_percentChars`). The same goes
for the writing of a form, so that its pairs read back whatever they are (`formPairs_formOf`).
-/

namespace MapMarkup.Text

/-! ### One byte -/

theorem forall_byte {p : UInt8 → Prop} (h : ∀ k : Fin 256, p (UInt8.ofFin k)) (b : UInt8) : p b :=
  h b.toFin

def hexByte (n : Nat) : UInt8 := UInt8.ofNat (hexDigit n).toNat

theorem bytesOf_percentByte : ∀ b : UInt8, (bytesOf (percentByte b) = [b] ∧ b ≠ 37 ∧ b ≠ 43)
    ∨ bytesOf (percentByte b) = [37, hexByte (b.toNat / 16), hexByte (b.toNat % 16)] :=
  forall_byte (by decide +kernel)

theorem hexByte_halves : ∀ b : UInt8,
    hexByte (b.toNat / 16) ≠ 43 ∧ hexByte (b.toNat % 16) ≠ 43
      ∧ percentTriple? 37 (hexByte (b.toNat / 16)) (hexByte (b.toNat % 16)) = some b :=
  forall_byte (by decide +kernel)

theorem notMem_percentByte : ∀ b : UInt8,
    '&' ∉ percentByte b ∧ '=' ∉ percentByte b ∧ '?' ∉ percentByte b :=
  forall_byte (by decide +kernel)

theorem percentDecodeBytes_cons {a : UInt8} (ha : a ≠ 37) (rest : List UInt8) :
    percentDecodeBytes (a :: rest) = a :: percentDecodeBytes rest := by
  match rest with
  | [] => rfl
  | [x] => rfl
  | x :: y :: tail =>
    have htriple : percentTriple? a x y = none := if_neg ha
    rw [percentDecodeBytes, htriple]

theorem percentDecodeBytes_triple {x y b : UInt8} (h : percentTriple? 37 x y = some b)
    (rest : List UInt8) :
    percentDecodeBytes (37 :: x :: y :: rest) = b :: percentDecodeBytes rest := by
  rw [percentDecodeBytes, h]

/-! ### A text -/

theorem bytesOf_append (cs ds : List Char) : bytesOf (cs ++ ds) = bytesOf cs ++ bytesOf ds :=
  List.flatMap_append

theorem percentDecodeBytes_written {written : List Char} {b : UInt8} (rest : List UInt8)
    (h : (bytesOf written = [b] ∧ b ≠ 37 ∧ b ≠ 43)
      ∨ bytesOf written = [37, hexByte (b.toNat / 16), hexByte (b.toNat % 16)]) :
    percentDecodeBytes (((bytesOf written).map fun b => if b = 43 then 32 else b) ++ rest)
      = b :: percentDecodeBytes rest := by
  rcases h with ⟨hbytes, hpercent, hplus⟩ | hbytes
  · rw [hbytes, List.map_singleton, if_neg hplus, List.singleton_append]
    exact percentDecodeBytes_cons hpercent rest
  · obtain ⟨hhigh, hlow, htriple⟩ := hexByte_halves b
    rw [hbytes, List.map_cons, List.map_cons, List.map_singleton, if_neg (by decide),
      if_neg hhigh, if_neg hlow]
    exact percentDecodeBytes_triple htriple rest

theorem percentDecodeBytes_percentByte (b : UInt8) (rest : List UInt8) :
    percentDecodeBytes (((bytesOf (percentByte b)).map fun b => if b = 43 then 32 else b) ++ rest)
      = b :: percentDecodeBytes rest :=
  percentDecodeBytes_written rest (bytesOf_percentByte b)

/-- What is written byte by byte is read byte by byte. -/
theorem percentDecodeBytes_flatMap {write : UInt8 → List Char}
    (h : ∀ b rest,
      percentDecodeBytes (((bytesOf (write b)).map fun b => if b = 43 then 32 else b) ++ rest)
        = b :: percentDecodeBytes rest) (bs : List UInt8) :
    percentDecodeBytes ((bytesOf (bs.flatMap write)).map fun b => if b = 43 then 32 else b)
      = bs := by
  induction bs with
  | nil => rfl
  | cons b bs ih => rw [List.flatMap_cons, bytesOf_append, List.map_append, h, ih]

/-- A percent-encoded text is read as the text. -/
theorem formDecode_percentChars (cs : List Char) : formDecode (percentChars cs) = cs := by
  rw [formDecode, percentChars, percentDecodeBytes_flatMap percentDecodeBytes_percentByte,
    ofBytes_bytesOf]

theorem notMem_percentChars (cs : List Char) :
    '&' ∉ percentChars cs ∧ '=' ∉ percentChars cs ∧ '?' ∉ percentChars cs := by
  refine ⟨fun h => ?_, fun h => ?_, fun h => ?_⟩ <;>
    obtain ⟨b, _, hb⟩ := List.mem_flatMap.mp h
  · exact (notMem_percentByte b).1 hb
  · exact (notMem_percentByte b).2.1 hb
  · exact (notMem_percentByte b).2.2 hb

/-! ### A form -/

theorem bytesOf_formByte : ∀ b : UInt8, formByte b = ['+'] ∧ b = 32
    ∨ (bytesOf (formByte b) = [b] ∧ b ≠ 37 ∧ b ≠ 43)
    ∨ bytesOf (formByte b) = [37, hexByte (b.toNat / 16), hexByte (b.toNat % 16)] :=
  forall_byte (by decide +kernel)

theorem notMem_formByte : ∀ b : UInt8, '&' ∉ formByte b ∧ '=' ∉ formByte b :=
  forall_byte (by decide +kernel)

theorem percentDecodeBytes_formByte (b : UInt8) (rest : List UInt8) :
    percentDecodeBytes (((bytesOf (formByte b)).map fun b => if b = 43 then 32 else b) ++ rest)
      = b :: percentDecodeBytes rest := by
  rcases bytesOf_formByte b with ⟨hplus, rfl⟩ | hwritten
  · rw [hplus]
    exact percentDecodeBytes_cons (by decide) rest
  · exact percentDecodeBytes_written rest hwritten

theorem formDecode_formChars (cs : List Char) : formDecode (formChars cs) = cs := by
  rw [formDecode, formChars, percentDecodeBytes_flatMap percentDecodeBytes_formByte,
    ofBytes_bytesOf]

theorem notMem_formChars (cs : List Char) : '&' ∉ formChars cs ∧ '=' ∉ formChars cs := by
  refine ⟨fun h => ?_, fun h => ?_⟩ <;> obtain ⟨b, _, hb⟩ := List.mem_flatMap.mp h
  · exact (notMem_formByte b).1 hb
  · exact (notMem_formByte b).2 hb

/-- Pairs read back from the form they are written in, if the writing of a text can be decoded and
holds none of the separators of a form. -/
theorem formPairs_written {write : List Char → List Char}
    (hdecode : ∀ cs, formDecode (write cs) = cs) (hmarks : ∀ cs, '&' ∉ write cs ∧ '=' ∉ write cs)
    (pairs : List (String × String)) :
    formPairs (joinFields '&' (pairs.map fun p => write p.1.toList ++ '=' :: write p.2.toList))
      = pairs := by
  cases hpairs : pairs with
  | nil => rfl
  | cons first rest =>
    rw [← hpairs]
    have hne : (pairs.map fun p => write p.1.toList ++ '=' :: write p.2.toList) ≠ [] := by
      simp [hpairs]
    have hsep : ∀ part ∈ pairs.map fun p => write p.1.toList ++ '=' :: write p.2.toList,
        '&' ∉ part := by
      intro part hpart
      obtain ⟨p, _, rfl⟩ := List.mem_map.mp hpart
      simp [(hmarks p.1.toList).1, (hmarks p.2.toList).1]
    have hfilter : (pairs.map fun p => write p.1.toList ++ '=' :: write p.2.toList).filter
        (· ≠ []) = pairs.map fun p => write p.1.toList ++ '=' :: write p.2.toList := by
      rw [List.filter_eq_self]
      intro part hpart
      obtain ⟨p, _, rfl⟩ := List.mem_map.mp hpart
      simp
    rw [formPairs, splitFields_joinFields hne hsep, hfilter, List.map_map]
    conv_rhs => rw [← List.map_id pairs]
    apply List.map_congr_left
    intro p _
    rw [Function.comp_apply, formPair, splitFirst_append (hmarks _).2, Option.getD_some]
    dsimp only
    rw [hdecode, hdecode, String.ofList_toList, String.ofList_toList]
    rfl

/-- The pairs of a form are the ones it was made of. -/
theorem formPairs_formOf (pairs : List (String × String)) : formPairs (formOf pairs) = pairs :=
  formPairs_written formDecode_formChars notMem_formChars pairs

end MapMarkup.Text
