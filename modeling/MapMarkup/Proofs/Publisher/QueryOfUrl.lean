import MapMarkup.Proofs.Publisher.Answer
import MapMarkup.Proofs.Query
import MapMarkup.Proofs.Text.Separators

/-!
# A query with and without its URL

A query may be given on its own, behind a question mark or behind a whole URL. Nothing tells the
reader which of these a text is: it goes by the first question mark. Behind a URL that is the one
that ends the URL, and the query is read whole. On its own, a query that has a question mark in a
value is taken for a URL up to there, and the parameters before it are lost
(`Query.agree_behindUrl`).
-/

namespace MapMarkup

namespace Query

/-- Two texts that ask for the same: their pairs, their parameters, and the answers of every
publisher. -/
structure Agree (text text' : String) : Prop where
  pairs : pairs text = pairs text'
  read : Parameters.read text = Parameters.read text'
  answer : ∀ (p : Publisher) (workspace : Option String) (form : Option Form),
    p.answer text workspace form = p.answer text' workspace form

theorem agree_iff {text text' : String} : Agree text text' ↔ pairs text = pairs text' := by
  refine ⟨Agree.pairs, fun h => ⟨h, ?_, fun p workspace form => ?_⟩⟩
  · rw [Parameters.read, Parameters.read, h]
  · exact Publisher.answer_eq_of_lastValues (fun f => by rw [h]) p workspace form

/-! ### Where a query is taken to begin -/

theorem ofUrl_mark (cs : List Char) : ofUrl ('?' :: cs) = ofUrl cs := by
  rw [ofUrl, List.dropWhile_cons_of_pos (by decide)]
  rfl

theorem pairs_behindMark (q : String) : pairs ("?" ++ q) = pairs q := by
  rw [pairs, String.toList_append]
  exact congrArg Text.formPairs (ofUrl_mark q.toList)

private theorem toList_behindUrl (u q : String) :
    (u ++ "?" ++ q).toList = u.toList ++ '?' :: q.toList := by
  rw [String.toList_append, String.toList_append, List.append_assoc]
  rfl

/-- Behind a URL a query is read whole. -/
theorem pairs_behindUrl {u : String} (hu : '?' ∉ u.toList) (hne : u ≠ "") (q : String) :
    pairs (u ++ "?" ++ q) = Text.formPairs q.toList := by
  have hne' : u.toList ≠ [] := fun h => hne (String.toList_eq_nil_iff.mp h)
  rw [pairs, toList_behindUrl, ofUrl_endpoint hne' hu]

theorem pairs_of_notMem {q : String} (h : '?' ∉ q.toList) : pairs q = Text.formPairs q.toList := by
  rw [pairs, ← List.nil_append q.toList, ← ofUrl_mark, List.nil_append]
  exact congrArg Text.formPairs (ofUrl_append List.not_mem_nil h)

theorem pairs_of_mark {q : String} (hq : q.toList.head? ≠ some '?') {before after : List Char}
    (hsplit : q.toList = before ++ '?' :: after) (hbefore : '?' ∉ before) :
    pairs q = Text.formPairs after := by
  have hne : before ≠ [] := by
    rintro rfl
    exact hq (by rw [hsplit]; rfl)
  rw [pairs, hsplit, ofUrl_endpoint hne hbefore]

private theorem pairs_eq_iff {u q : String} (hq : q.toList.head? ≠ some '?') (hu : '?' ∉ u.toList) :
    pairs (u ++ "?" ++ q) = pairs q ↔ u = "" ∨ '?' ∉ q.toList := by
  by_cases hne : u = ""
  · rw [hne, String.empty_append, pairs_behindMark]
    simp
  · rw [pairs_behindUrl hu hne, or_iff_right hne]
    constructor
    · intro h hmem
      obtain ⟨before, after, hsplit, hbefore⟩ := List.eq_append_cons_of_mem hmem
      rw [pairs_of_mark hq hsplit hbefore, hsplit] at h
      exact Text.formPairs_append_ne before after h
    · intro hmem
      rw [pairs_of_notMem hmem]

/-- **When a query means the same with and without its URL.** Behind a URL a query is read whole,
and on its own from its first question mark on, so that the two agree exactly when it has none. -/
theorem agree_behindUrl {u q : String} (hq : q.toList.head? ≠ some '?') (hu : '?' ∉ u.toList) :
    Agree ("?" ++ q) q
    ∧ (Agree (u ++ "?" ++ q) q ↔ u = "" ∨ '?' ∉ q.toList)
    ∧ (u ≠ "" → pairs (u ++ "?" ++ q) = Text.formPairs q.toList)
    ∧ ('?' ∉ q.toList → pairs q = Text.formPairs q.toList)
    ∧ ∀ before after, q.toList = before ++ '?' :: after → '?' ∉ before →
      pairs q = Text.formPairs after
      ∧ (u ≠ "" → pairs (u ++ "?" ++ q) ≠ pairs q) := by
  have hiff := pairs_eq_iff hq hu
  refine ⟨agree_iff.mpr (pairs_behindMark q), agree_iff.trans hiff,
    fun hne => pairs_behindUrl hu hne q, pairs_of_notMem, fun before after hsplit hbefore => ?_⟩
  refine ⟨pairs_of_mark hq hsplit hbefore, fun hne heq => ?_⟩
  rcases hiff.mp heq with hempty | hmem
  · exact hne hempty
  · exact hmem (by rw [hsplit]; simp)

theorem agree_behindUrl_lakes : ∃ u q : String, '?' ∉ u.toList ∧ q.toList.head? ≠ some '?'
    ∧ '?' ∉ q.toList
    ∧ pairs q = [("LAYERS", "Lakes"), ("TITLE", "What?"), ("CRS", "OSMTILE")]
    ∧ Agree ("?" ++ q) q ∧ Agree (u ++ "?" ++ q) q := by
  let u := "http://localhost:8080/geoserver/wms"
  let q := "LAYERS=Lakes&TITLE=What%3F&CRS=OSMTILE"
  have hu : '?' ∉ u.toList := by decide +kernel
  have hq : q.toList.head? ≠ some '?' := by decide +kernel
  have hmarks : '?' ∉ q.toList := by decide +kernel
  have hpairs : pairs q = [("LAYERS", "Lakes"), ("TITLE", "What?"), ("CRS", "OSMTILE")] := by
    decide +kernel
  obtain ⟨hmark, hurl, _⟩ := agree_behindUrl hq hu
  exact ⟨u, q, hu, hq, hmarks, hpairs, hmark, hurl.mpr (.inr hmarks)⟩

/-- A title with a question mark is kept behind a URL, and on its own costs the query its layer. -/
theorem behindUrl_disagrees : ∃ u q : String, '?' ∉ u.toList ∧ q.toList.head? ≠ some '?'
    ∧ pairs (u ++ "?" ++ q) = [("LAYERS", "Lakes"), ("TITLE", "What?"), ("CRS", "OSMTILE"),
      ("WIDTH", "9"), ("HEIGHT", "9")]
    ∧ pairs q = [("CRS", "OSMTILE"), ("WIDTH", "9"), ("HEIGHT", "9")]
    ∧ (∃ p : Publisher, (p.answer (u ++ "?" ++ q) none none).isOk = true)
    ∧ ∀ (p : Publisher) (workspace : Option String) (form : Option Form),
      p.answer q workspace form = .error (.missingParameter "LAYERS") := by
  let u := "http://localhost:8080/geoserver/wms"
  let q := "LAYERS=Lakes&TITLE=What?&CRS=OSMTILE&WIDTH=9&HEIGHT=9"
  refine ⟨u, q, by decide +kernel, by decide +kernel, by decide +kernel, by decide +kernel,
    ⟨{ catalog := ⟨[{ name := "Lakes", bounds := Box.world }]⟩, service := {} }, by decide +kernel⟩,
    fun p workspace form => ?_⟩
  have hrefused : (Parameters.ofQuery q).toRequest = .error (.missingParameter "LAYERS") := by
    decide +kernel
  rw [Publisher.answer, Parameters.read_eq, bind_eq_error_iff]
  exact .inr ⟨_, rfl, bind_eq_error_iff.mpr (.inl hrefused)⟩

end Query

end MapMarkup
