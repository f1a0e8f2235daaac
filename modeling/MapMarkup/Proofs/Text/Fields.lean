import Mathlib
import MapMarkup.Text.Blank
import MapMarkup.Text.Fields

/-!
# Fields read back

Fields without the separator, joined and split again, are the same fields
(`splitFields_joinFields`), and what a first separator cuts apart is what stood on its two sides
(`splitFirst_append`). Trimming keeps what neither starts nor ends with a blank, so trimming twice
is trimming once.
-/

namespace MapMarkup.Text

/-! ### Splitting -/

theorem splitFields_of_notMem {sep : Char} {cs : List Char} (h : sep ∉ cs) :
    splitFields sep cs = [cs] := by
  induction cs with
  | nil => rfl
  | cons c cs ih =>
    rw [List.mem_cons, not_or] at h
    rw [splitFields, if_neg (Ne.symm h.1), ih h.2]

theorem splitFields_append {sep : Char} {field : List Char} (h : sep ∉ field) (cs : List Char) :
    splitFields sep (field ++ sep :: cs) = field :: splitFields sep cs := by
  induction field with
  | nil => rw [List.nil_append, splitFields, if_pos rfl]
  | cons c field ih =>
    rw [List.mem_cons, not_or] at h
    rw [List.cons_append, splitFields, if_neg (Ne.symm h.1), ih h.2]

theorem splitFields_joinFields {sep : Char} {parts : List (List Char)} (hne : parts ≠ [])
    (h : ∀ part ∈ parts, sep ∉ part) : splitFields sep (joinFields sep parts) = parts := by
  induction parts with
  | nil => exact absurd rfl hne
  | cons part parts ih =>
    have hpart := h part List.mem_cons_self
    cases parts with
    | nil => exact splitFields_of_notMem hpart
    | cons next parts =>
      rw [joinFields, splitFields_append hpart]
      · rw [ih (by simp) fun p hp => h p (List.mem_cons_of_mem _ hp)]
      · simp

theorem splitFields_append_cons (sep : Char) (cs ds : List Char) :
    splitFields sep (cs ++ sep :: ds) = splitFields sep cs ++ splitFields sep ds := by
  induction cs with
  | nil => simp [splitFields]
  | cons c cs ih =>
      rw [List.cons_append, splitFields, splitFields, ih]
      by_cases hc : c = sep
      · rw [if_pos hc, if_pos hc, List.cons_append]
      · rw [if_neg hc, if_neg hc]
        cases hfields : splitFields sep cs with
        | nil => exact absurd hfields (splitFields_ne_nil sep cs)
        | cons field fields => rfl

theorem splitFields_joinFields_flatMap (sep : Char) {parts : List (List Char)} (hne : parts ≠ []) :
    splitFields sep (joinFields sep parts) = parts.flatMap (splitFields sep) := by
  induction parts with
  | nil => exact absurd rfl hne
  | cons part parts ih =>
    cases parts with
    | nil => rw [joinFields, List.flatMap_singleton]
    | cons next parts =>
      rw [joinFields, splitFields_append_cons, ih (List.cons_ne_nil next parts)]
      · rfl
      · simp

theorem notMem_of_mem_splitFields {sep : Char} {cs field : List Char}
    (h : field ∈ splitFields sep cs) : sep ∉ field := by
  induction cs generalizing field with
  | nil =>
    rw [splitFields, List.mem_singleton] at h
    simp [h]
  | cons c cs ih =>
    rw [splitFields] at h
    split at h
    · rcases List.mem_cons.mp h with rfl | h
      · simp
      · exact ih h
    case isFalse hc =>
      cases hfields : splitFields sep cs with
      | nil => exact absurd hfields (splitFields_ne_nil sep cs)
      | cons first rest =>
        rw [hfields] at h ih
        dsimp only at h
        rcases List.mem_cons.mp h with rfl | h
        · rw [List.mem_cons, not_or]
          exact ⟨Ne.symm hc, ih List.mem_cons_self⟩
        · exact ih (List.mem_cons_of_mem _ h)

theorem splitFirst_append {sep : Char} {before : List Char} (h : sep ∉ before) (after : List Char) :
    splitFirst sep (before ++ sep :: after) = some (before, after) := by
  induction before with
  | nil => rw [List.nil_append, splitFirst, if_pos rfl]
  | cons c before ih =>
    rw [List.mem_cons, not_or] at h
    rw [List.cons_append, splitFirst, if_neg (Ne.symm h.1), ih h.2]
    rfl

theorem splitFirst_of_notMem {sep : Char} {cs : List Char} (h : sep ∉ cs) :
    splitFirst sep cs = none := by
  induction cs with
  | nil => rfl
  | cons c cs ih =>
    rw [List.mem_cons, not_or] at h
    rw [splitFirst, if_neg (Ne.symm h.1), ih h.2]
    rfl

theorem eq_append_of_splitFirst {sep : Char} {cs before after : List Char}
    (h : splitFirst sep cs = some (before, after)) : cs = before ++ sep :: after := by
  induction cs generalizing before with
  | nil => cases h
  | cons c cs ih =>
    rw [splitFirst] at h
    split at h
    case isTrue hc =>
      cases h
      rw [hc, List.nil_append]
    case isFalse hc =>
      obtain ⟨⟨before', after'⟩, hsplit, heq⟩ := Option.map_eq_some_iff.mp h
      cases heq
      rw [List.cons_append, ← ih hsplit]

theorem cut_append {sep : Char} {before : String} (h : sep ∉ before.toList) (after : String) :
    cut sep (before ++ String.singleton sep ++ after) = some (before, after) := by
  have hchars : (before ++ String.singleton sep ++ after).toList
      = before.toList ++ sep :: after.toList := by
    simp
  rw [cut, hchars, splitFirst_append h, Option.map_some, String.ofList_toList, String.ofList_toList]

theorem fields_join_of_notMem {sep : Char} {parts : List String} (hne : parts ≠ [])
    (h : ∀ part ∈ parts, sep ∉ part.toList) : fields sep (join sep parts) = parts := by
  rw [fields, toList_join, splitFields_joinFields (by simpa using hne) (by simpa using h),
    List.map_map]
  simp

/-- Values behind their names, between commas, come apart again. -/
theorem cut_fields_join (named : List (String × String)) (hne : named ≠ [])
    (h : ∀ p ∈ named, ',' ∉ p.1.toList ∧ '=' ∉ p.1.toList ∧ ',' ∉ p.2.toList) :
    (fields ',' (join ',' (named.map fun p => p.1 ++ "=" ++ p.2))).map (cut '=')
      = named.map some := by
  rw [fields_join_of_notMem (by simpa using hne)]
  · rw [List.map_map]
    exact List.map_congr_left fun p hp => cut_append (h p hp).2.1 p.2
  · intro part hpart
    obtain ⟨p, hp, rfl⟩ := List.mem_map.mp hpart
    obtain ⟨hname, _, hvalue⟩ := h p hp
    simp [hname, hvalue]

theorem cut_of_notMem {sep : Char} {s : String} (h : sep ∉ s.toList) : cut sep s = none := by
  rw [cut, splitFirst_of_notMem h]
  rfl

theorem exists_cut {sep : Char} {s : String} (h : sep ∈ s.toList) :
    ∃ before after, s = before ++ String.singleton sep ++ after ∧ sep ∉ before.toList := by
  obtain ⟨before, after, hsplit, hbefore⟩ := List.eq_append_cons_of_mem h
  refine ⟨String.ofList before, String.ofList after, ?_, by rwa [String.toList_ofList]⟩
  rw [← String.toList_inj, hsplit]
  simp

theorem getD_splitFirst (sep : Char) (cs : List Char) :
    ((splitFirst sep cs).map Prod.fst).getD cs = cs.takeWhile (· ≠ sep) := by
  induction cs with
  | nil => rfl
  | cons c cs ih =>
    rw [splitFirst]
    by_cases hc : c = sep
    · simp [hc]
    · rw [List.takeWhile_cons_of_pos (by simpa using hc), ← ih, if_neg hc]
      cases splitFirst sep cs <;> rfl

theorem mem_joinFields {sep c : Char} {parts : List (List Char)} (h : c ∈ joinFields sep parts) :
    c = sep ∨ ∃ part ∈ parts, c ∈ part := by
  induction parts with
  | nil => exact absurd h List.not_mem_nil
  | cons part parts ih =>
    cases parts with
    | nil => exact .inr ⟨part, List.mem_cons_self, h⟩
    | cons next parts =>
      rw [joinFields] at h
      · rcases List.mem_append.mp h with h | h
        · exact .inr ⟨part, List.mem_cons_self, h⟩
        · rcases List.mem_cons.mp h with rfl | h
          · exact .inl rfl
          · rcases ih h with hsep | ⟨p, hp, hc⟩
            · exact .inl hsep
            · exact .inr ⟨p, List.mem_cons_of_mem _ hp, hc⟩
      · simp

theorem joinFields_around (sep : Char) (before after : List (List Char)) :
    ∃ front back, ∀ part, joinFields sep (before ++ part :: after) = front ++ (part ++ back) := by
  induction before with
  | nil =>
    cases after with
    | nil => exact ⟨[], [], fun part => by simp [joinFields]⟩
    | cons next rest => exact ⟨[], sep :: joinFields sep (next :: rest), fun part => rfl⟩
  | cons first before ih =>
    obtain ⟨front, back, hparts⟩ := ih
    refine ⟨first ++ sep :: front, back, fun part => ?_⟩
    rw [List.cons_append, joinFields, hparts, List.append_assoc, List.cons_append]
    simp

/-! ### Trimming -/

theorem dropWhile_eq_self {p : Char → Bool} {cs : List Char} (h : ∀ c ∈ cs.head?, p c = false) :
    cs.dropWhile p = cs := by
  cases cs with
  | nil => rfl
  | cons c cs => rw [List.dropWhile_cons_of_neg (by rw [h c rfl]; decide)]

theorem span_append {p : Char → Bool} {cs : List Char} (rest : List Char)
    (hcs : ∀ c ∈ cs, p c = true) (hrest : ∀ c ∈ rest.head?, p c = false) :
    (cs ++ rest).takeWhile p = cs ∧ (cs ++ rest).dropWhile p = rest := by
  have htake : rest.takeWhile p = [] := by
    cases rest with
    | nil => rfl
    | cons c rest => rw [List.takeWhile_cons_of_neg (by rw [hrest c rfl]; decide)]
  rw [List.takeWhile_append_of_pos hcs, List.dropWhile_append_of_pos hcs, htake, List.append_nil,
    dropWhile_eq_self hrest]
  exact ⟨rfl, rfl⟩

def Trimmed (cs : List Char) : Prop :=
  (∀ c ∈ cs.head?, isBlank c = false) ∧ ∀ c ∈ cs.getLast?, isBlank c = false

theorem Trimmed.trimChars_eq {cs : List Char} (h : Trimmed cs) : trimChars cs = cs := by
  rw [trimChars, trimStart, dropWhile_eq_self h.1, trimEnd, dropWhile_eq_self, List.reverse_reverse]
  rw [List.head?_reverse]
  exact h.2

theorem head?_dropWhile_isBlank {cs : List Char} {c : Char}
    (h : c ∈ (cs.dropWhile isBlank).head?) : isBlank c = false := by
  have := List.head?_dropWhile_not isBlank cs
  rw [Option.mem_def] at h
  rw [h] at this
  exact this

theorem trimEnd_head? {cs : List Char} {c : Char} (h : c ∈ (trimEnd cs).head?) : c ∈ cs.head? := by
  have hstart : trimEnd cs <+: cs := by
    rw [trimEnd, ← List.reverse_suffix, List.reverse_reverse]
    exact List.dropWhile_suffix _
  obtain ⟨rest, hrest⟩ := hstart
  rw [← hrest, List.head?_append, Option.mem_def.mp h]
  rfl

theorem trimmed_trimChars (cs : List Char) : Trimmed (trimChars cs) := by
  constructor
  · intro c hc
    exact head?_dropWhile_isBlank (trimEnd_head? hc)
  · intro c hc
    rw [trimChars, trimEnd, List.getLast?_reverse] at hc
    exact head?_dropWhile_isBlank hc

theorem mem_of_mem_trimChars {cs : List Char} {c : Char} (h : c ∈ trimChars cs) : c ∈ cs := by
  rw [trimChars, trimEnd, List.mem_reverse] at h
  exact (List.dropWhile_suffix _).subset (List.mem_reverse.mp ((List.dropWhile_suffix _).subset h))

theorem trimChars_eq_nil_iff {cs : List Char} :
    trimChars cs = [] ↔ ∀ c ∈ cs, isBlank c = true := by
  have hstart : trimChars cs = [] ↔ cs.dropWhile isBlank = [] := by
    rw [trimChars, trimEnd, List.reverse_eq_nil_iff, List.dropWhile_eq_nil_iff, trimStart]
    constructor
    · intro h
      rw [← List.head?_eq_none_iff, Option.eq_none_iff_forall_not_mem]
      intro c hc
      have hblank := h c (List.mem_reverse.mpr (List.mem_of_mem_head? hc))
      rw [head?_dropWhile_isBlank hc] at hblank
      cases hblank
    · intro h
      simp [h]
  rw [hstart, List.dropWhile_eq_nil_iff]

theorem trim_eq_empty_iff {s : String} : trim s = "" ↔ allBlank s = true := by
  rw [← String.toList_inj, toList_trim, allBlank, List.all_eq_true]
  exact trimChars_eq_nil_iff

theorem trimmed_of_forall {cs : List Char} (h : ∀ c ∈ cs, isBlank c = false) : Trimmed cs :=
  ⟨fun c hc => h c (List.mem_of_mem_head? hc), fun c hc => h c (List.mem_of_mem_getLast? hc)⟩

end MapMarkup.Text
