import MapMarkup.Proofs.TiledCrs

/-!
# The grammar of codes

A code is the name of a tiled system, or the authority and number of a reference system, alone or in
a URN. A URN is reduced to its code by two replacements, one after the other. What they leave has
one colon, so each of them replaced at most one pattern there, and the colon of the code was written
in one of six ways (`Crs.replaceAll_colons_iff`). `resolveCrs_decides` says with that which texts
resolve, and to what; all others are refused as they were written.
-/

namespace MapMarkup

/-! ### Codes -/

/-- A code of a reference system: the authority that gives it out, its number there, and the systems
that it stands for. -/
structure CrsCode where
  authority : String
  number : String
  crs : Crs
  tcrs : Tcrs

namespace CrsCode

def all : List CrsCode :=
  [⟨"CRS", "84", .crs84, .wgs84⟩, ⟨"OGC", "CRS84", .crs84, .wgs84⟩,
    ⟨"EPSG", "4326", .epsg4326, .wgs84⟩, ⟨"EPSG", "3857", .epsg3857, .osmTile⟩,
    ⟨"EPSG", "900913", .epsg3857, .osmTile⟩, ⟨"EPSG", "5936", .epsg5936, .apsTile⟩,
    ⟨"EPSG", "3978", .epsg3978, .cbmTile⟩]

/-- What may stand for the colon of a code in a URN: one or two colons, or the version 1.3 between
colons, one or two on either side. -/
def urnColons : List String := [":", "::", ":1.3:", "::1.3:", ":1.3::", "::1.3::"]

inductive Spells (c : CrsCode) : String → Prop
  | plain : c.Spells (c.authority ++ ":" ++ c.number)
  | urn {colon : String} (hcolon : colon ∈ urnColons) :
      c.Spells ("URN:OGC:DEF:CRS:" ++ c.authority ++ colon ++ c.number)

end CrsCode

/-! ### Texts that replacements lead to -/

namespace Crs

section

variable {sep c : Char} {tail before after rest cs : List Char}

theorem replaceAll_cons_of_ne (h : c ≠ sep) : replaceAll (sep :: tail) [sep] (c :: cs)
    = c :: replaceAll (sep :: tail) [sep] cs := by
  rw [replaceAll, if_neg]
  simp [h.symm]

private theorem replaceAll_pattern : replaceAll (sep :: tail) [sep] (sep :: (tail ++ rest))
    = sep :: replaceAll (sep :: tail) [sep] rest := by
  rw [replaceAll, if_pos]
  · simp
  · simp

private theorem replaceAll_cons_self (h : ¬ tail <+: rest) :
    replaceAll (sep :: tail) [sep] (sep :: rest)
      = sep :: replaceAll (sep :: tail) [sep] rest := by
  rw [replaceAll, if_neg]
  simpa using h

theorem replaceAll_eq_iff_of_notMem (hafter : sep ∉ after) :
    replaceAll (sep :: tail) [sep] cs = after ↔ cs = after := by
  induction after generalizing cs with
  | nil =>
    cases cs with
    | nil => simp [replaceAll]
    | cons c cs =>
      rw [replaceAll]
      split <;> simp
  | cons d after ih =>
    rw [List.mem_cons, not_or] at hafter
    obtain ⟨hd, hafter⟩ := hafter
    cases cs with
    | nil => simp [replaceAll]
    | cons c cs =>
      by_cases hc : c = sep
      · subst hc
        rw [replaceAll]
        split <;> simp [hd]
      · rw [replaceAll_cons_of_ne hc, List.cons.injEq, List.cons.injEq, ih hafter]

/-- The first replacement in a text stands for a pattern, or for itself where no pattern starts. -/
theorem replaceAll_eq_append_cons_iff (hbefore : sep ∉ before) :
    replaceAll (sep :: tail) [sep] cs = before ++ sep :: after
      ↔ ∃ rest, replaceAll (sep :: tail) [sep] rest = after
        ∧ (cs = before ++ sep :: (tail ++ rest)
          ∨ (cs = before ++ sep :: rest ∧ ¬ tail <+: rest)) := by
  induction before generalizing cs with
  | nil =>
    cases cs with
    | nil => simp [replaceAll]
    | cons c cs =>
      by_cases hc : c = sep
      · subst hc
        by_cases htail : tail <+: cs
        · obtain ⟨rest, rfl⟩ := htail
          rw [replaceAll_pattern]
          constructor
          · intro h
            exact ⟨rest, (List.cons.inj h).2, .inl rfl⟩
          · rintro ⟨other, rfl, hother | ⟨hother, hno⟩⟩
            · rw [List.append_cancel_left (List.cons.inj hother).2, List.nil_append]
            · rw [← (List.cons.inj hother).2] at hno
              exact absurd (List.prefix_append tail rest) hno
        · rw [replaceAll_cons_self htail]
          constructor
          · intro h
            exact ⟨cs, (List.cons.inj h).2, .inr ⟨rfl, htail⟩⟩
          · rintro ⟨other, rfl, hother | ⟨hother, _⟩⟩
            · rw [(List.cons.inj hother).2] at htail
              exact absurd (List.prefix_append tail other) htail
            · rw [(List.cons.inj hother).2, List.nil_append]
      · rw [replaceAll_cons_of_ne hc]
        simp [hc]
  | cons d before ih =>
    rw [List.mem_cons, not_or] at hbefore
    obtain ⟨hd, hbefore⟩ := hbefore
    cases cs with
    | nil => simp [replaceAll]
    | cons c cs =>
      by_cases hc : c = sep
      · subst hc
        rw [replaceAll]
        split <;> simp [hd]
      · simp only [replaceAll_cons_of_ne hc, List.cons_append, List.cons.injEq, ih hbefore]
        by_cases hcd : c = d
        · simp [hcd]
        · simp [hcd]

end

/-- The two replacements leave a text with one colon exactly if it was written in one of the six
ways. -/
theorem replaceAll_colons_iff {authority number cs : List Char} (hauthority : ':' ∉ authority)
    (hnumber : ':' ∉ number) :
    replaceAll ":1.3:".toList [':'] (replaceAll "::".toList [':'] cs) = authority ++ ':' :: number
      ↔ ∃ colon ∈ CrsCode.urnColons, cs = authority ++ (colon.toList ++ number) := by
  have hversion : ':' ∉ ['1', '.', '3'] := by decide
  have hnumber' : ¬ [':'] <+: number := fun h => hnumber (h.subset (List.mem_singleton_self _))
  have hmarked : ¬ ['1', '.', '3', ':'] <+: number := fun h => hnumber (h.subset (by decide))
  change replaceAll (':' :: ['1', '.', '3', ':']) [':'] (replaceAll (':' :: [':']) [':'] cs) = _ ↔ _
  rw [replaceAll_eq_append_cons_iff hauthority]
  simp only [replaceAll_eq_iff_of_notMem hnumber, exists_eq_left, and_iff_left hmarked]
  change (replaceAll (':' :: [':']) [':'] cs
      = authority ++ ':' :: (['1', '.', '3'] ++ ':' :: number) ∨ _) ↔ _
  simp only [replaceAll_eq_append_cons_iff hauthority, replaceAll_eq_append_cons_iff hversion,
    replaceAll_eq_iff_of_notMem hnumber, exists_eq_left, and_iff_left hnumber']
  simp only [CrsCode.urnColons, List.mem_cons, List.not_mem_nil, or_false, exists_eq_or_imp,
    exists_eq_left, String.reduceToList, List.cons_append, List.nil_append, List.cons_prefix_cons,
    Char.reduceEq, false_and, not_false_eq_true, and_true]
  tauto

/-! ### Reference systems -/

private theorem ofBareCode?_eq_some_iff {text : String} {crs : Crs} : ofBareCode? text = some crs
    ↔ ∃ c ∈ CrsCode.all, c.crs = crs ∧ text = c.authority ++ ":" ++ c.number := by
  unfold ofBareCode?
  split
  case h_8 => simp_all [CrsCode.all]
  all_goals simp [CrsCode.all, eq_comm]

end Crs

namespace CrsCode

variable {c : CrsCode}

theorem toList_plain (c : CrsCode) : (c.authority ++ ":" ++ c.number).toList
    = c.authority.toList ++ ':' :: c.number.toList := by
  rw [String.toList_append, String.toList_append, List.append_assoc]
  rfl

private theorem toList_append_three (s t u v : String) :
    (s ++ t ++ u ++ v).toList = s.toList ++ (t.toList ++ (u.toList ++ v.toList)) := by
  rw [String.toList_append, String.toList_append, String.toList_append, List.append_assoc,
    List.append_assoc]

theorem toList_urn (c : CrsCode) (colon : String) :
    ("URN:OGC:DEF:CRS:" ++ c.authority ++ colon ++ c.number).toList
      = Crs.urnStart ++ (c.authority.toList ++ (colon.toList ++ c.number.toList)) :=
  toList_append_three _ _ _ _

private theorem spells_iff {text : String} : c.Spells text
    ↔ text.toList = c.authority.toList ++ ':' :: c.number.toList
      ∨ ∃ colon ∈ urnColons, text.toList
        = Crs.urnStart ++ (c.authority.toList ++ (colon.toList ++ c.number.toList)) := by
  constructor
  · intro h
    cases h with
    | plain => exact .inl c.toList_plain
    | urn hcolon => exact .inr ⟨_, hcolon, c.toList_urn _⟩
  · rintro (h | ⟨colon, hcolon, h⟩)
    · rw [← toList_plain, String.toList_inj] at h
      exact h ▸ .plain
    · rw [← toList_urn, String.toList_inj] at h
      exact h ▸ .urn hcolon

private theorem isClear_of_mem_all : ∀ c ∈ all, ':' ∉ c.authority.toList ∧ ':' ∉ c.number.toList
    ∧ ¬ Crs.urnStart <+: c.authority.toList ++ ':' :: c.number.toList := by
  decide

theorem ofCrs?_of_mem_all : ∀ c ∈ all, Tcrs.ofCrs? c.crs = some c.tcrs := by
  decide

end CrsCode

namespace Crs

private theorem bareCode_eq_iff {c : CrsCode} (hc : c ∈ CrsCode.all) {cs : List Char} :
    bareCode cs = c.authority.toList ++ ':' :: c.number.toList ↔ c.Spells (String.ofList cs) := by
  obtain ⟨hauthority, hnumber, hstart⟩ := CrsCode.isClear_of_mem_all c hc
  rw [CrsCode.spells_iff, String.toList_ofList, bareCode]
  split
  case isTrue hurn =>
    obtain ⟨rest, rfl⟩ := List.isPrefixOf_iff_prefix.mp hurn
    have hplain : urnStart ++ rest ≠ c.authority.toList ++ ':' :: c.number.toList :=
      fun h => hstart ⟨rest, h⟩
    simp only [List.drop_left, replaceAll_colons_iff hauthority hnumber, hplain, false_or,
      List.append_cancel_left_eq]
  case isFalse hurn =>
    have hno (rest : List Char) : cs ≠ urnStart ++ rest := by
      rintro rfl
      exact hurn (List.isPrefixOf_iff_prefix.mpr (List.prefix_append _ _))
    simp [hno]

theorem ofText_eq_ok_iff {text : String} {crs : Crs} : ofText text = .ok crs
    ↔ ∃ c ∈ CrsCode.all, c.crs = crs ∧ c.Spells (Text.upper (Text.trim text)) := by
  have hcode : ofText text = .ok crs ↔ ofBareCode? (String.ofList (bareCode (Text.upperChars
      (Text.trimChars text.toList)))) = some crs := by
    unfold ofText
    split
    case h_1 other hother => rw [hother, Except.ok.injEq, Option.some.injEq]
    case h_2 hnone => simp [hnone]
  rw [hcode, ofBareCode?_eq_some_iff, Text.upper, Text.toList_trim]
  refine exists_congr fun c => and_congr_right fun hc => and_congr_right fun _ => ?_
  rw [← bareCode_eq_iff hc, ← String.toList_inj, String.toList_ofList, CrsCode.toList_plain]

end Crs

/-! ### Tiled systems -/

namespace Tcrs

variable {text : String} {t : Tcrs} {cs : List Char}

private theorem name_injective_toLower : ∀ t ∈ all, ∀ t' ∈ all,
    t.name.toList.map Char.toLower = t'.name.toList.map Char.toLower → t = t' := by
  decide

private theorem map_withoutCodeStart_iff :
    (withoutCodeStart cs).map Char.toLower = t.name.toList.map Char.toLower
      ↔ cs.map Char.toLower = t.name.toList.map Char.toLower
        ∨ cs.map Char.toLower = t.code.toList.map Char.toLower := by
  have hname : ((t.name.toList.map Char.toLower).take 6) ≠ codeStart.toList.map Char.toLower := by
    cases t <;> decide
  have hcode : t.code.toList.map Char.toLower
      = codeStart.toList.map Char.toLower ++ t.name.toList.map Char.toLower := by
    rw [code, String.toList_append, List.map_append]
  have hstart : codeStart.toList.map Char.toLower
      = (codeStart.toList.map Char.toLower ++ t.name.toList.map Char.toLower).take 6 := by
    cases t <;> decide
  rw [withoutCodeStart, List.map_take]
  split
  case isTrue h =>
    have hnot : cs.map Char.toLower ≠ t.name.toList.map Char.toLower := by
      intro heq
      exact hname (heq ▸ h)
    rw [or_iff_right hnot, hcode, ← List.take_append_drop 6 (cs.map Char.toLower), h,
      List.append_cancel_left_eq, List.map_drop]
  case isFalse h =>
    have hnot : cs.map Char.toLower ≠ t.code.toList.map Char.toLower := by
      intro heq
      rw [heq, hcode] at h
      exact h hstart.symm
    rw [or_iff_left hnot]

/-- The text, without blanks around it, is the name of the system or its code in any ASCII case. -/
def IsNamedBy (t : Tcrs) (text : String) : Prop :=
  Text.sameLetters (Text.trim text) t.name = true ∨ Text.sameLetters (Text.trim text) t.code = true

private theorem ofText?_eq_some_iff : ofText? text = some t ↔ t.IsNamedBy text := by
  have hmem (t : Tcrs) : t ∈ all := by cases t <;> decide
  have hbare (t : Tcrs) : Text.sameLetters t.name
      (String.ofList (withoutCodeStart (Text.trimChars text.toList))) = true
      ↔ (withoutCodeStart (Text.trimChars text.toList)).map Char.toLower
        = t.name.toList.map Char.toLower := by
    rw [Text.sameLetters, decide_eq_true_iff, String.toList_ofList, eq_comm]
  simp only [IsNamedBy, Text.sameLetters, decide_eq_true_iff, Text.toList_trim,
    ← map_withoutCodeStart_iff]
  constructor
  · intro h
    have hletters := List.find?_some h
    exact (hbare t).mp hletters
  · intro h
    obtain ⟨named, hnamed⟩ : ∃ named, ofText? text = some named := by
      rw [← Option.isSome_iff_exists, ofText?, List.find?_isSome]
      exact ⟨t, hmem t, (hbare t).mpr h⟩
    have hletters := List.find?_some hnamed
    rw [hbare] at hletters
    have hsame := name_injective_toLower named (hmem named) t (hmem t) (hletters.symm.trans h)
    rw [hnamed, hsame]

end Tcrs

/-! ### What a code resolves to -/

private theorem AxisOrder.eq_of_latLon_iff {a b : AxisOrder} (h : a = .latLon ↔ b = .latLon) :
    a = b := by
  cases a <;> cases b <;> simp at h <;> rfl

theorem resolveCrs_eq_ok_iff_spells {text version : String} {t : Tcrs} {order : AxisOrder} :
    resolveCrs text version = .ok (t, order) ↔ (t.IsNamedBy text ∧ order = .xy)
      ∨ ∃ c ∈ CrsCode.all, c.Spells (Text.upper (Text.trim text)) ∧ t = c.tcrs
        ∧ (order = .latLon ↔ c.crs = .epsg4326 ∧ "1.3".toList <+: version.toList) := by
  rw [resolveCrs_eq_ok_iff, Tcrs.ofText?_eq_some_iff]
  refine or_congr_right ?_
  simp only [← List.isPrefixOf_iff_prefix, ← Crs.axisOrderIn_eq_latLon_iff]
  constructor
  · rintro ⟨crs, hcrs, ht, rfl⟩
    obtain ⟨c, hc, rfl, hspells⟩ := Crs.ofText_eq_ok_iff.mp hcrs
    rw [CrsCode.ofCrs?_of_mem_all c hc, Option.some.injEq] at ht
    exact ⟨c, hc, hspells, ht.symm, Iff.rfl⟩
  · rintro ⟨c, hc, hspells, rfl, horder⟩
    exact ⟨c.crs, Crs.ofText_eq_ok_iff.mpr ⟨c, hc, rfl, hspells⟩, CrsCode.ofCrs?_of_mem_all c hc,
      AxisOrder.eq_of_latLon_iff horder⟩

/-- **Which texts are codes.** A text resolves exactly if it is the name or the code of a tiled
system in any ASCII case, or spells in upper case the code of a reference system, alone or in a URN.
-/
theorem resolveCrs_decides (text version : String) :
    (∀ t order, resolveCrs text version = .ok (t, order) ↔ (t.IsNamedBy text ∧ order = .xy)
      ∨ ∃ c ∈ CrsCode.all, c.Spells (Text.upper (Text.trim text)) ∧ t = c.tcrs
        ∧ (order = .latLon ↔ c.crs = .epsg4326 ∧ "1.3".toList <+: version.toList))
    ∧ ∀ e, resolveCrs text version = .error e ↔ (∀ t : Tcrs, ¬ t.IsNamedBy text)
      ∧ (∀ c ∈ CrsCode.all, ¬ c.Spells (Text.upper (Text.trim text)))
      ∧ e = .unsupportedCrs text := by
  refine ⟨fun t order => resolveCrs_eq_ok_iff_spells, fun e => ⟨fun h => ?_, ?_⟩⟩
  · have hno (t : Tcrs) (order : AxisOrder) : resolveCrs text version ≠ .ok (t, order) := by
      rw [h]
      exact fun hok => by cases hok
    refine ⟨fun t ht => ?_, fun c hc hspells => ?_, eq_of_resolveCrs_error h⟩
    · exact hno t .xy (resolveCrs_eq_ok_iff_spells.mpr (.inl ⟨ht, rfl⟩))
    · refine hno c.tcrs (c.crs.axisOrderIn version) ?_
      exact resolveCrs_eq_ok_iff.mpr (.inr ⟨c.crs, Crs.ofText_eq_ok_iff.mpr ⟨c, hc, rfl, hspells⟩,
        CrsCode.ofCrs?_of_mem_all c hc, rfl⟩)
  · rintro ⟨hnames, hcodes, rfl⟩
    cases hresolve : resolveCrs text version with
    | error e => rw [eq_of_resolveCrs_error hresolve]
    | ok resolved =>
      rcases resolveCrs_eq_ok_iff_spells.mp hresolve with ⟨hname, _⟩ | ⟨c, hc, hspells, _⟩
      · exact absurd hname (hnames _)
      · exact absurd hspells (hcodes c hc)

/-- A colon may be doubled on either side of the version, but the version stands once. -/
example : resolveCrs " urn:ogc:def:crs:EPSG::1.3:4326" "1.3.0" = .ok (.wgs84, .latLon)
    ∧ resolveCrs "urn:ogc:def:crs:EPSG:1.3:1.3:4326" "1.3.0"
      = .error (.unsupportedCrs "urn:ogc:def:crs:EPSG:1.3:1.3:4326") := by
  decide +kernel

end MapMarkup
