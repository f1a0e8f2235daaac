import MapMarkup.GetMap.Canonical
import MapMarkup.Proofs.Outcome
import MapMarkup.Proofs.Text.Percent

/-!
# The canonical form of a query

Reading a query through its canonical form never fails, although the reader of that form refuses a
name that stands twice: no name does (`nodup_lastPairs`). What is read is the last value of every
parameter (`Parameters.read_eq`). Queries that differ in the order of different names, in the case
of names, in earlier values of a name that is repeated, or in names that mean nothing have the same
last values (`Alike.lastValue?_eq`).
-/

namespace MapMarkup

/-! ### Last values -/

theorem lastValue?_eq (pairs : List (String × String)) (name : String) :
    lastValue? pairs name
      = lastOption? (pairs.map fun p => (Text.upper p.1, p.2)) name := by
  rw [lastValue?, lastOption?, List.filter_map, List.getLast?_map, Option.map_map]
  rfl

theorem lastValue?_append (pairs more : List (String × String)) (name : String) :
    lastValue? (pairs ++ more) name = (lastValue? more name).or (lastValue? pairs name) := by
  simp [lastValue?, List.filter_append, List.getLast?_append, Option.map_or]

theorem lastValue?_singleton (p : String × String) (name : String) :
    lastValue? [p] name = if Text.upper p.1 = name then some p.2 else none := by
  by_cases h : Text.upper p.1 = name
  · simp [lastValue?, h]
  · simp [lastValue?, h]

theorem lastValue?_cons (p : String × String) (pairs : List (String × String)) (name : String) :
    lastValue? (p :: pairs) name
      = (lastValue? pairs name).or (if Text.upper p.1 = name then some p.2 else none) := by
  rw [← List.singleton_append, lastValue?_append, lastValue?_singleton]

theorem lastValue?_eq_none_iff {pairs : List (String × String)} {name : String} :
    lastValue? pairs name = none ↔ ∀ p ∈ pairs, Text.upper p.1 ≠ name := by
  simp [lastValue?]

theorem lastValue?_eq_some_iff {pairs : List (String × String)} {name value : String} :
    lastValue? pairs name = some value ↔ ∃ before spelled after,
      pairs = before ++ (spelled, value) :: after ∧ Text.upper spelled = name
      ∧ ∀ p ∈ after, Text.upper p.1 ≠ name := by
  rw [lastValue?, List.getLast?_filter, Option.map_eq_some_iff]
  constructor
  · rintro ⟨⟨spelled, _⟩, hfind, rfl⟩
    obtain ⟨hname, after, before, hpairs, hafter⟩ := List.find?_eq_some_iff_append.mp hfind
    refine ⟨before.reverse, spelled, after.reverse, ?_, of_decide_eq_true hname, ?_⟩
    · simpa using congrArg List.reverse hpairs
    · intro p hp
      simpa using hafter p (List.mem_reverse.mp hp)
  · rintro ⟨before, spelled, after, rfl, hname, hafter⟩
    refine ⟨(spelled, value), List.find?_eq_some_iff_append.mpr ?_, rfl⟩
    refine ⟨decide_eq_true hname, after.reverse, before.reverse, by simp, ?_⟩
    intro p hp
    simpa using hafter p (List.mem_reverse.mp hp)

/-! ### One pair for each name -/

theorem lastPairs_concat (pairs : List (String × String)) (p : String × String) :
    lastPairs (pairs ++ [p]) = (lastPairs pairs).filter (fun q => q.1 ≠ Text.upper p.1)
      ++ [(Text.upper p.1, p.2)] := by
  simp [lastPairs, List.foldl_append]

theorem nodup_lastPairs (pairs : List (String × String)) :
    ((lastPairs pairs).map Prod.fst).Nodup := by
  induction pairs using List.reverseRecOn with
  | nil => exact List.nodup_nil
  | append_singleton pairs p ih =>
    rw [lastPairs_concat, List.map_append, List.nodup_append]
    refine ⟨ih.sublist (List.filter_sublist.map Prod.fst), List.nodup_singleton _, ?_⟩
    intro name hname other hother heq
    obtain ⟨q, hq, rfl⟩ := List.mem_map.mp hname
    have hfresh := of_decide_eq_true (List.mem_filter.mp hq).2
    exact hfresh (heq.trans (List.mem_singleton.mp hother))

private theorem mem_lastPairs_iff {pairs : List (String × String)} {name value : String} :
    (name, value) ∈ lastPairs pairs ↔ lastValue? pairs name = some value := by
  induction pairs using List.reverseRecOn with
  | nil => simp [lastPairs, lastValue?]
  | append_singleton pairs p ih =>
    rw [lastPairs_concat, lastValue?_append, lastValue?_singleton, List.mem_append,
      List.mem_filter, ih, List.mem_singleton, Prod.mk.injEq]
    by_cases h : Text.upper p.1 = name
    · simp [h, eq_comm]
    · simp [h, Ne.symm h]

/-! ### Reading strictly -/

theorem Parameter.ofName?_name (f : Parameter) : ofName? f.name = some f := by
  cases f <;> decide

private theorem Parameter.name_of_ofName? {f : Parameter} {name : String}
    (h : ofName? name = some f) :
    f.name = name := by
  unfold ofName? at h
  simpa using List.find?_some h

namespace Parameters

private theorem value_set (p : Parameters) (f : Parameter) (text : String) (g : Parameter) :
    (p.set f text).value g = if g = f then some text else p.value g := by
  cases f <;> cases g <;> rfl

theorem eq_of_value_eq {p q : Parameters} (h : ∀ f, p.value f = q.value f) : p = q := by
  cases p
  cases q
  rw [mk.injEq]
  exact ⟨h .service, h .request, h .version, h .layers, h .styles, h .crs, h .srs, h .bbox,
    h .width, h .height, h .format, h .formatOptions, h .language, h .transparent⟩

/-- A pair whose parameter has no value yet gives it one and changes no other. -/
theorem exists_add {p : Parameters} {pair : String × String}
    (h : ∀ f : Parameter, f.name = pair.1 → p.value f = none) :
    ∃ p', p.add pair = .ok p'
      ∧ ∀ f : Parameter, p'.value f = if f.name = pair.1 then some pair.2 else p.value f := by
  unfold add
  cases hname : Parameter.ofName? pair.1 with
  | none =>
    refine ⟨p, rfl, fun f => ?_⟩
    have hf : f.name ≠ pair.1 := by
      intro hf
      rw [← hf, Parameter.ofName?_name] at hname
      cases hname
    rw [if_neg hf]
  | some f =>
    have hf := Parameter.name_of_ofName? hname
    dsimp only
    rw [h f hf]
    refine ⟨p.set f pair.2, rfl, fun g => ?_⟩
    have hg : g = f ↔ g.name = pair.1 := by
      constructor
      · rintro rfl
        exact hf
      · intro hg
        rw [← hg, Parameter.ofName?_name] at hname
        exact Option.some.inj hname
    simp only [value_set, hg]

private theorem exists_foldlM_add {pairs : List (String × String)} {p : Parameters}
    (hnodup : (pairs.map Prod.fst).Nodup)
    (hnew : ∀ pair ∈ pairs, ∀ f : Parameter, f.name = pair.1 → p.value f = none) :
    ∃ p', pairs.foldlM add p = .ok p' ∧ ∀ (f : Parameter) (text : String),
      p'.value f = some text ↔ p.value f = some text ∨ (f.name, text) ∈ pairs := by
  induction pairs generalizing p with
  | nil => exact ⟨p, rfl, by simp⟩
  | cons pair rest ih =>
    rw [List.map_cons, List.nodup_cons] at hnodup
    rw [List.forall_mem_cons] at hnew
    obtain ⟨hfresh, hrest⟩ := hnodup
    obtain ⟨next, hnext, hvalue⟩ := exists_add hnew.1
    have hnew' : ∀ other ∈ rest, ∀ f : Parameter, f.name = other.1 → next.value f = none := by
      intro other hother f hf
      have hne : f.name ≠ pair.1 := by
        intro heq
        apply hfresh
        rw [← heq, hf]
        exact List.mem_map_of_mem hother
      rw [hvalue, if_neg hne]
      exact hnew.2 other hother f hf
    obtain ⟨last, hlast, hall⟩ := ih hrest hnew'
    refine ⟨last, ?_, fun f text => ?_⟩
    · rw [List.foldlM_cons]
      exact bind_eq_ok_iff.mpr ⟨next, hnext, hlast⟩
    · rw [hall, hvalue, List.mem_cons, ← or_assoc]
      apply or_congr_left
      by_cases hf : f.name = pair.1
      · simp [hf, hnew.1 f hf, Prod.ext_iff, eq_comm]
      · simp [hf, Prod.ext_iff]

theorem exists_read (query : String) : ∃ p, read query = .ok p
    ∧ ∀ f : Parameter, p.value f = lastValue? (Query.pairs query) f.name := by
  obtain ⟨p, hp, hvalue⟩ := exists_foldlM_add (nodup_lastPairs (Query.pairs query))
    (p := {}) (fun _ _ f _ => by cases f <;> rfl)
  refine ⟨p, ?_, fun f => ?_⟩
  · rw [read, Text.formPairs_formOf]
    exact hp
  · ext text
    have hnone : ({} : Parameters).value f = none := by cases f <;> rfl
    rw [hvalue, mem_lastPairs_iff, hnone]
    simp

/-- A query is read through its canonical form, and what is read are its last values. -/
theorem read_eq (query : String) : read query = .ok (ofQuery query) := by
  obtain ⟨p, hp, hvalue⟩ := exists_read query
  have hsame : p = ofQuery query := by
    apply eq_of_value_eq
    intro f
    rw [hvalue]
    cases f <;> rfl
  rw [hp, hsame]

theorem read_toRequest (query : String) :
    (read query >>= toRequest) = (ofQuery query).toRequest := by
  rw [read_eq]
  rfl

end Parameters

/-! ### Queries that mean the same -/

/-- Pairs that differ only in what no answer depends on. -/
inductive Alike : List (String × String) → List (String × String) → Prop
  /-- Different names in another order. -/
  | swapped (before after : List (String × String)) {p q : String × String}
      (h : Text.upper p.1 ≠ Text.upper q.1) :
      Alike (before ++ p :: q :: after) (before ++ q :: p :: after)
  /-- A name in other letters. -/
  | recased (before after : List (String × String)) {name name' value : String}
      (h : Text.upper name = Text.upper name') :
      Alike (before ++ (name, value) :: after) (before ++ (name', value) :: after)
  /-- A value of a name that has another one later. -/
  | replaced (before after : List (String × String)) {p : String × String}
      (h : ∃ q ∈ after, Text.upper q.1 = Text.upper p.1) :
      Alike (before ++ p :: after) (before ++ after)
  /-- A name that is no parameter. -/
  | unknown (before after : List (String × String)) {p : String × String}
      (h : ∀ f : Parameter, Text.upper p.1 ≠ f.name) :
      Alike (before ++ p :: after) (before ++ after)
  | refl (pairs : List (String × String)) : Alike pairs pairs
  | symm {pairs pairs' : List (String × String)} : Alike pairs pairs' → Alike pairs' pairs
  | trans {pairs pairs' pairs'' : List (String × String)} :
      Alike pairs pairs' → Alike pairs' pairs'' → Alike pairs pairs''

theorem Alike.lastValue?_eq {pairs pairs' : List (String × String)} (h : Alike pairs pairs')
    (f : Parameter) : lastValue? pairs f.name = lastValue? pairs' f.name := by
  induction h with
  | @swapped before after p q h =>
    simp only [lastValue?_append, lastValue?_cons, Option.or_assoc]
    by_cases hp : Text.upper p.1 = f.name
    · have hq : Text.upper q.1 ≠ f.name := fun hq => h (hp.trans hq.symm)
      simp [hp, hq]
    · simp [hp]
  | recased before after h => simp only [lastValue?_append, lastValue?_cons, h]
  | @replaced before after p h =>
    rw [lastValue?_append, lastValue?_append, lastValue?_cons]
    by_cases hp : Text.upper p.1 = f.name
    · have hlater : lastValue? after f.name ≠ none := by
        obtain ⟨q, hq, hname⟩ := h
        intro hnone
        exact lastValue?_eq_none_iff.mp hnone q hq (hname.trans hp)
      obtain ⟨text, htext⟩ := Option.ne_none_iff_exists'.mp hlater
      simp [htext]
    · simp [hp]
  | unknown before after h =>
    rw [lastValue?_append, lastValue?_append, lastValue?_cons, if_neg (h f), Option.or_none]
  | refl => rfl
  | symm _ ih => exact ih.symm
  | trans _ _ ih ih' => exact ih.trans ih'

end MapMarkup
