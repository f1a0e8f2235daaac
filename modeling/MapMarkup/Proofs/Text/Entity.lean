import MapMarkup.Text.Entity

/-!
# Escaped texts

What stands in an escaped text: none of the four characters that begin or end a tag or a value
(`notMem_escapeChars`), and no `&` but those that begin an entity (`exists_entity_of_suffix`). A
text that holds none of the five characters is escaped as it is.
-/

namespace MapMarkup.Text

def entities : List (List Char) :=
  [['l', 't', ';'], ['g', 't', ';'], ['a', 'm', 'p', ';'], ['a', 'p', 'o', 's', ';'],
    ['q', 'u', 'o', 't', ';']]

def isMarkup (c : Char) : Bool :=
  ['<', '>', '&', '\'', '"'].contains c

variable {c : Char} {cs : List Char}

theorem escapeChar_cases (c : Char) :
    (isMarkup c = true ∧ ∃ e ∈ entities, escapeChar c = '&' :: e)
      ∨ isMarkup c = false ∧ escapeChar c = [c] := by
  unfold escapeChar
  split
  case h_6 hlt hgt hamp hapos hquot =>
    refine .inr ⟨?_, rfl⟩
    simp only [isMarkup, List.contains_eq_mem, List.mem_cons, List.not_mem_nil, or_false,
      decide_eq_false_iff_not, not_or]
    exact ⟨hlt, hgt, hamp, hapos, hquot⟩
  all_goals exact .inl ⟨by decide, _, by decide, rfl⟩

theorem escapeChar_ne_nil (c : Char) : escapeChar c ≠ [] := by
  obtain ⟨_, e, _, heq⟩ | ⟨_, heq⟩ := escapeChar_cases c
  · rw [heq]
    exact List.cons_ne_nil _ _
  · rw [heq]
    exact List.cons_ne_nil _ _

theorem notMem_escapeChars (hc : isMarkup c = true) (hne : c ≠ '&') (cs : List Char) :
    c ∉ escapeChars cs := by
  intro hmem
  obtain ⟨d, _, hd⟩ := List.mem_flatMap.mp hmem
  obtain ⟨_, e, he, heq⟩ | ⟨hplain, heq⟩ := escapeChar_cases d
  · have hentities : ∀ e ∈ entities, ∀ d ∈ e, isMarkup d = false := by
      simp [entities, isMarkup]
    rw [heq, List.mem_cons] at hd
    obtain rfl | hd := hd
    · exact hne rfl
    · rw [hentities e he c hd] at hc
      cases hc
  · rw [heq, List.mem_singleton] at hd
    rw [hd, hplain] at hc
    cases hc

theorem suffix_of_suffix_append {before : List Char} (h : c ∉ before) {tail : List Char}
    (hsuffix : c :: tail <:+ before ++ cs) : c :: tail <:+ cs := by
  induction before with
  | nil => exact hsuffix
  | cons d before ih =>
      rw [List.mem_cons, not_or] at h
      rw [List.cons_append, List.suffix_cons_iff] at hsuffix
      obtain heq | hsuffix := hsuffix
      · cases heq
        exact absurd rfl h.1
      · exact ih h.2 hsuffix

/-- Every `&` of an escaped text begins an entity. -/
theorem exists_entity_of_suffix {tail : List Char} (h : '&' :: tail <:+ escapeChars cs) :
    ∃ e ∈ entities, e <+: tail := by
  induction cs with
  | nil => cases List.suffix_nil.mp h
  | cons d cs ih =>
      rw [escapeChars_cons] at h
      obtain ⟨_, e, he, heq⟩ | ⟨hplain, heq⟩ := escapeChar_cases d
      · rw [heq, List.cons_append, List.suffix_cons_iff] at h
        obtain h | h := h
        · cases h
          exact ⟨e, he, List.prefix_append _ _⟩
        · have hentities : ∀ e ∈ entities, '&' ∉ e := by decide
          exact ih (suffix_of_suffix_append (hentities e he) h)
      · have hne : '&' ∉ escapeChar d := by
          rw [heq, List.mem_singleton]
          rintro rfl
          cases hplain
        exact ih (suffix_of_suffix_append hne h)

theorem escapeChars_eq_self (h : ∀ c ∈ cs, isMarkup c = false) : escapeChars cs = cs := by
  induction cs with
  | nil => rfl
  | cons c cs ih =>
      rw [List.forall_mem_cons] at h
      obtain ⟨hmarkup, _⟩ | ⟨_, heq⟩ := escapeChar_cases c
      · rw [h.1] at hmarkup
        cases hmarkup
      · rw [escapeChars_cons, heq, ih h.2, List.singleton_append]

theorem escape_eq_self {s : String} (h : ∀ c ∈ s.toList, isMarkup c = false) : escape s = s := by
  rw [escape, escapeChars_eq_self h, String.ofList_toList]

end MapMarkup.Text
