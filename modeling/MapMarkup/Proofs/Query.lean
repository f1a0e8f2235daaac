import MapMarkup.Proofs.Text.Percent
import MapMarkup.Query

/-!
# Query strings read back

The parameters behind an endpoint are the ones that were written there: `Query.pairs_url`. Names are
written as they are, so they have to be plain, that is, unchanged by percent encoding; values may be
any text.
-/

namespace MapMarkup.Query

open Text

/-- The name of a parameter stands for itself in a URL. -/
def IsPlain (name : String) : Prop :=
  percentChars name.toList = name.toList

instance (name : String) : Decidable (IsPlain name) :=
  inferInstanceAs (Decidable (_ = _))

theorem parameter_eq {p : String × String} (h : IsPlain p.1) :
    parameter p = percentChars p.1.toList ++ '=' :: percentChars p.2.toList := by
  rw [IsPlain] at h
  rw [parameter, h]

private theorem notMem_parameter {p : String × String} (h : IsPlain p.1) :
    '&' ∉ parameter p ∧ '?' ∉ parameter p := by
  obtain ⟨hand, _, hmark⟩ := notMem_percentChars p.1.toList
  obtain ⟨hand', _, hmark'⟩ := notMem_percentChars p.2.toList
  rw [parameter_eq h]
  simp [hand, hand', hmark, hmark']

theorem formPairs_joinFields {params : List (String × String)} (h : ∀ p ∈ params, IsPlain p.1) :
    formPairs (joinFields '&' (params.map parameter)) = params := by
  have hwritten : params.map parameter
      = params.map fun p => percentChars p.1.toList ++ '=' :: percentChars p.2.toList :=
    List.map_congr_left fun p hp => parameter_eq (h p hp)
  rw [hwritten]
  exact formPairs_written formDecode_percentChars
    (fun cs => ⟨(notMem_percentChars cs).1, (notMem_percentChars cs).2.1⟩) params

private theorem dropWhile_marks {cs : List Char} (h : '?' ∉ cs) (rest : List Char) (hne : cs ≠ []) :
    (cs ++ rest).dropWhile (· = '?') = cs ++ rest := by
  refine dropWhile_eq_self fun c hc => ?_
  rw [List.head?_append_of_ne_nil _ hne] at hc
  rw [decide_eq_false_iff_not]
  rintro rfl
  exact h (List.mem_of_mem_head? hc)

theorem ofUrl_endpoint {endpoint : List Char} (hne : endpoint ≠ []) (hendpoint : '?' ∉ endpoint)
    (query : List Char) : ofUrl (endpoint ++ '?' :: query) = query := by
  unfold ofUrl
  rw [dropWhile_marks hendpoint _ hne]
  dsimp only
  rw [splitFirst_append hendpoint]

theorem ofUrl_append {endpoint query : List Char} (hendpoint : '?' ∉ endpoint)
    (hquery : '?' ∉ query) : ofUrl (endpoint ++ '?' :: query) = query := by
  cases endpoint with
  | nil =>
    unfold ofUrl
    have hkeep : query.dropWhile (· = '?') = query := by
      refine dropWhile_eq_self fun c hc => ?_
      rw [decide_eq_false_iff_not]
      rintro rfl
      exact hquery (List.mem_of_mem_head? hc)
    rw [List.nil_append, List.dropWhile_cons_of_pos (by decide), hkeep]
    dsimp only
    rw [splitFirst_of_notMem hquery]
  | cons c cs => exact ofUrl_endpoint (List.cons_ne_nil c cs) hendpoint query

/-- The parameters of a URL are the ones it was made of. -/
theorem pairs_url {endpoint : String} {params : List (String × String)}
    (hendpoint : '?' ∉ endpoint.toList) (h : ∀ p ∈ params, IsPlain p.1) :
    pairs (url endpoint params) = params := by
  have hquery : '?' ∉ joinFields '&' (params.map parameter) := by
    intro hmem
    rcases mem_joinFields hmem with hsep | ⟨part, hpart, hmem⟩
    · exact absurd hsep (by decide)
    · obtain ⟨p, hp, rfl⟩ := List.mem_map.mp hpart
      exact (notMem_parameter (h p hp)).2 hmem
  rw [pairs, url, String.toList_ofList, ofUrl_append hendpoint hquery, formPairs_joinFields h]

end MapMarkup.Query
