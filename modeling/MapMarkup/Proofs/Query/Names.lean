import MapMarkup.Proofs.Query
import MapMarkup.Proofs.Text.Case
import MapMarkup.Proofs.Text.Separators
import MapMarkup.Proofs.Text.Transparent

/-!
# Names in a query string

A URL holds the values of its parameters encoded and their names as they are. A name of letters and
underscores is its own encoding, so parameters with such names come back whatever their values are
and however often a name is repeated (`Query.url_isRead`). Any other name has to be read as itself,
and nothing more is needed (`Query.pairs_url_eq_iff`): a `=` would end the name early, a `&` would
cut it off, and an escape or a plus sign would be decoded.
-/

namespace MapMarkup

namespace Text

/-! ### Words -/

def isWordChar (c : Char) : Bool :=
  c.isAlpha || c = '_'

private theorem percentChars_cons (c : Char) (cs : List Char) :
    percentChars (c :: cs) = percentChars [c] ++ percentChars cs := by
  rw [← List.singleton_append, percentChars, bytesOf_append, List.flatMap_append]
  rfl

private theorem toNat_lt_of_isWordChar {c : Char} (h : isWordChar c = true) : c.toNat < 128 := by
  simp only [isWordChar, Char.isAlpha, Char.isUpper, Char.isLower, Bool.or_eq_true,
    Bool.and_eq_true, decide_eq_true_eq, UInt32.le_iff_toNat_le, ge_iff_le] at h
  change ((65 ≤ c.toNat ∧ c.toNat ≤ 90) ∨ (97 ≤ c.toNat ∧ c.toNat ≤ 122)) ∨ c = '_' at h
  obtain h | rfl := h
  · omega
  · decide

private theorem percentChars_wordChar {c : Char} (h : isWordChar c = true) :
    percentChars [c] = [c] :=
  forall_ascii (P := fun c => isWordChar c = true → percentChars [c] = [c])
    (by decide +kernel) (toNat_lt_of_isWordChar h) h

private theorem percentChars_word {cs : List Char} (h : cs.all isWordChar = true) :
    percentChars cs = cs := by
  induction cs with
  | nil => rfl
  | cons c cs ih =>
    rw [List.all_cons, Bool.and_eq_true] at h
    rw [percentChars_cons, percentChars_wordChar h.1, ih h.2, List.singleton_append]

/-! ### Pairs -/

/-- A text in front of `=` and a value gives the pair of a name and the value exactly when it has no
`=` of its own and decodes to the name. -/
theorem formPair_eq_iff {text name value : List Char} :
    formPair (text ++ '=' :: value) = (String.ofList name, String.ofList (formDecode value))
      ↔ '=' ∉ text ∧ formDecode text = name := by
  by_cases htext : '=' ∈ text
  · obtain ⟨before, after, rfl, hbefore⟩ := List.eq_append_cons_of_mem htext
    rw [List.append_assoc, List.cons_append, formPair, splitFirst_append hbefore, Option.getD_some]
    dsimp only
    rw [formDecode_append_cons (by decide)]
    refine iff_of_false (fun h => ?_) fun h => h.1 htext
    have hlength := congrArg List.length (String.ofList_injective (Prod.mk.inj h).2)
    rw [List.length_append, List.length_cons] at hlength
    omega
  · rw [formPair, splitFirst_append htext, Option.getD_some]
    dsimp only
    rw [Prod.mk.injEq, and_iff_left rfl, and_iff_right htext]
    exact ⟨fun h => String.ofList_injective h, congrArg String.ofList⟩

theorem exists_formPairs_eq_concat {name value : List Char} (hname : '&' ∈ name)
    (hvalue : '&' ∉ value) : ∃ before text, marks text < marks name
      ∧ formPairs (name ++ '=' :: value) = before ++ [formPair (text ++ '=' :: value)] := by
  obtain ⟨back, front, hsplit, hback⟩ := List.eq_append_cons_of_mem (List.mem_reverse.mpr hname)
  have hparts : name = front.reverse ++ '&' :: back.reverse := by
    rw [← List.reverse_reverse name, hsplit]
    simp
  have htext : '&' ∉ back.reverse := by rwa [List.mem_reverse]
  refine ⟨formPairs front.reverse, back.reverse, ?_, ?_⟩
  · rw [hparts, marks, marks, List.countP_append, List.countP_cons_of_pos (by decide)]
    omega
  · rw [hparts, List.append_assoc, List.cons_append, formPairs_append_cons,
      formPairs_of_field htext hvalue]

end Text

namespace Query

open Text

def IsWord (name : String) : Prop :=
  name ≠ "" ∧ name.toList.all isWordChar = true

instance (name : String) : Decidable (IsWord name) :=
  inferInstanceAs (Decidable (_ ∧ _))

theorem IsWord.isPlain {name : String} (h : IsWord name) : IsPlain name :=
  percentChars_word h.2

/-- A name that is read as it is written. -/
def IsVerbatim (name : String) : Prop :=
  '=' ∉ name.toList ∧ IsTransparent name.toList

instance (name : String) : Decidable (IsVerbatim name) :=
  inferInstanceAs (Decidable (_ ∧ _))

/-! ### Parameters -/

variable {p : String × String}

theorem formPair_parameter_iff {text : List Char} :
    formPair (text ++ '=' :: percentChars p.2.toList) = p
      ↔ '=' ∉ text ∧ formDecode text = p.1.toList := by
  have hiff := @formPair_eq_iff text p.1.toList (percentChars p.2.toList)
  rwa [formDecode_percentChars, String.ofList_toList, String.ofList_toList] at hiff

private theorem formPairs_parameter_ne_nil (p : String × String) :
    formPairs (parameter p) ≠ [] := by
  have hvalue := (notMem_percentChars p.2.toList).1
  rw [parameter]
  by_cases hname : '&' ∈ p.1.toList
  · obtain ⟨before, text, _, hpairs⟩ := exists_formPairs_eq_concat hname hvalue
    rw [hpairs]
    exact List.concat_ne_nil _ _
  · rw [formPairs_of_field hname hvalue]
    exact List.cons_ne_nil _ _

/-- A parameter says itself and nothing else exactly when its name is verbatim. -/
theorem formPairs_parameter_iff : formPairs (parameter p) = [p] ↔ IsVerbatim p.1 := by
  have hvalue := (notMem_percentChars p.2.toList).1
  rw [parameter]
  by_cases hname : '&' ∈ p.1.toList
  · obtain ⟨before, text, hmarks, hpairs⟩ := exists_formPairs_eq_concat hname hvalue
    refine iff_of_false (fun h => ?_) fun h => h.2.1 hname
    have hlast : formPair (text ++ '=' :: percentChars p.2.toList) = p := by
      have hsame := congrArg List.getLast? (hpairs.symm.trans h)
      rwa [List.getLast?_concat, List.getLast?_singleton, Option.some_inj] at hsame
    have hle := marks_formDecode_le text
    rw [(formPair_parameter_iff.mp hlast).2] at hle
    omega
  · rw [formPairs_of_field hname hvalue, List.singleton_inj, formPair_parameter_iff]
    exact ⟨fun h => ⟨h.1, hname, h.2⟩, fun h => ⟨h.1, h.2.2⟩⟩

/-! ### URLs -/

variable {endpoint : String} {params : List (String × String)}

private theorem pairs_url_eq_flatMap (hne : endpoint ≠ "") (hendpoint : '?' ∉ endpoint.toList) :
    pairs (url endpoint params) = params.flatMap fun p => formPairs (parameter p) := by
  have hchars : endpoint.toList ≠ [] := by simpa using hne
  rw [pairs, url, String.toList_ofList, ofUrl_endpoint hchars hendpoint, Text.formPairs_joinFields,
    List.flatMap_map]

/-- A URL says its parameters, and nothing else, exactly when every name is verbatim. -/
theorem pairs_url_eq_iff (hne : endpoint ≠ "") (hendpoint : '?' ∉ endpoint.toList) :
    pairs (url endpoint params) = params ↔ ∀ p ∈ params, IsVerbatim p.1 := by
  rw [pairs_url_eq_flatMap hne hendpoint,
    flatMap_eq_self_iff fun p _ => formPairs_parameter_ne_nil p]
  exact forall₂_congr fun _ _ => formPairs_parameter_iff

/-- **A URL is read as the parameters that it was made of.** Behind an endpoint without a question
mark they come back in their order, with any values, if their names are words, and exactly when
their names are verbatim. -/
theorem url_isRead (hendpoint : '?' ∉ endpoint.toList) (params : List (String × String)) :
    ((∀ p ∈ params, IsWord p.1) → pairs (url endpoint params) = params)
    ∧ (endpoint ≠ "" →
      (pairs (url endpoint params) = params ↔ ∀ p ∈ params, IsVerbatim p.1)) := by
  refine ⟨fun hwords => ?_, fun hne => pairs_url_eq_iff hne hendpoint⟩
  exact pairs_url hendpoint fun p hp => (hwords p hp).isPlain

theorem url_isRead_repeated : ∃ (endpoint : String) (params others : List (String × String)),
    '?' ∉ endpoint.toList ∧ (∀ p ∈ params, IsWord p.1) ∧ endpoint ≠ ""
    ∧ url endpoint params = "http://h/a b/wms?layers=a%26b%3Dc%2Bd%2526&STYLES=&layers=%3F%20%23"
      ++ "&FORMAT_OPTIONS=%C3%A9%E6%B0%B4%F0%9F%97%BA"
    ∧ pairs (url endpoint params) = params
    ∧ params = [("layers", "a&b=c+d%26"), ("STYLES", ""), ("layers", "? #"),
      ("FORMAT_OPTIONS", "é水🗺")]
    ∧ others = [("x-1", "1"), ("a+b", "1")] ∧ pairs (url endpoint others) ≠ others := by
  let endpoint := "http://h/a b/wms"
  let params := [("layers", "a&b=c+d%26"), ("STYLES", ""), ("layers", "? #"),
    ("FORMAT_OPTIONS", "é水🗺")]
  let others := [("x-1", "1"), ("a+b", "1")]
  have hendpoint : '?' ∉ endpoint.toList := by decide
  have hwords : ∀ p ∈ params, IsWord p.1 := by decide +kernel
  have hothers : ¬ ∀ p ∈ others, IsVerbatim p.1 := by decide +kernel
  exact ⟨endpoint, params, others, hendpoint, hwords, by decide, by decide +kernel,
    (url_isRead hendpoint params).1 hwords, rfl, rfl,
    fun h => hothers (((url_isRead hendpoint others).2 (by decide)).mp h)⟩

end Query

end MapMarkup
