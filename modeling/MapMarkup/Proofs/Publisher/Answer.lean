import MapMarkup.Proofs.GetMap.Canonical
import MapMarkup.Rendering

/-!
# What an answer depends on

A query reaches its answer through the last values of the fourteen parameters and through nothing
else (`Publisher.answer_of_lastValues`).
-/

namespace MapMarkup

namespace Publisher

theorem answer_eq_of_lastValues {query query' : String}
    (h : ∀ f : Parameter, lastValue? (Query.pairs query) f.name
      = lastValue? (Query.pairs query') f.name)
    (p : Publisher) (workspace : Option String) (form : Option Form) :
    p.answer query workspace form = p.answer query' workspace form := by
  obtain ⟨read, hread, hvalue⟩ := Parameters.exists_read query
  obtain ⟨read', hread', hvalue'⟩ := Parameters.exists_read query'
  have hsame : read = read' := by
    apply Parameters.eq_of_value_eq
    intro f
    rw [hvalue, hvalue', h]
  unfold answer
  rw [hread, hread', hsame]

/-- **An answer depends on the last values of its parameters alone.** Every query can be read, and
queries with the same last values have the same answer or are refused with the same error. -/
theorem answer_of_lastValues :
    (∀ query, ∃ read, Parameters.read query = .ok read ∧ ∀ f : Parameter,
      read.value f = lastValue? (Query.pairs query) f.name
      ∧ (read.value f = none ↔ ∀ p ∈ Query.pairs query, Text.upper p.1 ≠ f.name)
      ∧ ∀ text, read.value f = some text ↔ ∃ before spelled after,
        Query.pairs query = before ++ (spelled, text) :: after ∧ Text.upper spelled = f.name
        ∧ ∀ p ∈ after, Text.upper p.1 ≠ f.name)
    ∧ (∀ query query',
      (∀ f : Parameter, lastValue? (Query.pairs query) f.name
        = lastValue? (Query.pairs query') f.name) →
      ∀ (p : Publisher) (workspace : Option String) (form : Option Form),
        p.answer query workspace form = p.answer query' workspace form)
    ∧ ∀ query query', Alike (Query.pairs query) (Query.pairs query') →
      ∀ (p : Publisher) (workspace : Option String) (form : Option Form),
        p.answer query workspace form = p.answer query' workspace form := by
  refine ⟨fun query => ?_, fun query query' h => answer_eq_of_lastValues h,
    fun query query' h => answer_eq_of_lastValues h.lastValue?_eq⟩
  obtain ⟨read, hread, hvalue⟩ := Parameters.exists_read query
  refine ⟨read, hread, fun f => ⟨hvalue f, ?_, fun text => ?_⟩⟩
  · rw [hvalue, lastValue?_eq_none_iff]
  · rw [hvalue, lastValue?_eq_some_iff]

theorem answer_of_lastValues_lakes : ∃ (p : Publisher) (query query' : String),
    Query.pairs query = [("layers", "Roads"), ("LAYERS", "Lakes"), ("crs", "OSMTILE"), ("x", "1"),
      ("width", "9"), ("HEIGHT", "9")]
    ∧ Query.pairs query' = [("Height", "9"), ("WIDTH", "9"), ("CRS", "OSMTILE"),
      ("layers", "Lakes")]
    ∧ p.answer query none (some .markup) = p.answer query' none (some .markup)
    ∧ (p.answer query none (some .markup)).isOk = true := by
  let p : Publisher := { catalog := ⟨[{ name := "Lakes", bounds := Box.world }]⟩, service := {} }
  have hpairs : Query.pairs "layers=Roads&LAYERS=Lakes&crs=OSMTILE&x=1&width=9&HEIGHT=9"
      = [("layers", "Roads"), ("LAYERS", "Lakes"), ("crs", "OSMTILE"), ("x", "1"),
        ("width", "9"), ("HEIGHT", "9")] := by
    decide +kernel
  have hpairs' : Query.pairs "?Height=%39&WIDTH=9&CRS=OSMTILE&layers=%4Cakes"
      = [("Height", "9"), ("WIDTH", "9"), ("CRS", "OSMTILE"), ("layers", "Lakes")] := by
    decide +kernel
  have hupper : ["layers", "LAYERS", "crs", "x", "width", "HEIGHT", "Height", "WIDTH",
      "CRS"].map Text.upper
      = ["LAYERS", "LAYERS", "CRS", "X", "WIDTH", "HEIGHT", "HEIGHT", "WIDTH", "CRS"] := by
    decide +kernel
  refine ⟨p, _, _, hpairs, hpairs', answer_of_lastValues.2.1 _ _ ?_ p none _, by decide +kernel⟩
  intro f
  simp only [List.map_cons, List.map_nil, List.cons.injEq] at hupper
  simp only [hpairs, hpairs', lastValue?_eq, List.map_cons, List.map_nil, hupper]
  cases f <;> decide

end Publisher

end MapMarkup
