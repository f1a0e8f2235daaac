import MapMarkup.Catalog
import MapMarkup.Proofs.Text.Fields

/-!
# Lookup in a catalog

Entries may share their names, so what a lookup finds is a matter of places: it is the first entry
of a kind that the token decides. `Catalog.FindsAt` says which one without following the search, and
`Catalog.find?_eq_some_iff` that the search finds this one and no other. An entry that has been
found is the first of its workspace and name, whichever way it was found; so its qualified name
leads back to the same place, if no workspace has a colon in its name
(`Catalog.FindsAt.qualifiedName`).
-/

namespace MapMarkup

def Layer.IsIn (l : Layer) (workspace name : String) : Prop :=
  l.workspace = some workspace ∧ l.name = name

instance (l : Layer) (workspace name : String) : Decidable (l.IsIn workspace name) :=
  inferInstanceAs (Decidable (_ ∧ _))

namespace Catalog

variable {c : Catalog} {token : String} {preferred : Option String} {i : Nat} {l : Layer}

/-! ### First entries -/

/-- The entry at a place has a property that none before it has. -/
structure IsFirst (c : Catalog) (P : Layer → Prop) (i : Nat) (l : Layer) : Prop where
  entry : c.entries[i]? = some l
  holds : P l
  before : ∀ j < i, ∀ earlier ∈ c.entries[j]?, ¬ P earlier

instance (P : Layer → Prop) [DecidablePred P] : Decidable (c.IsFirst P i l) :=
  decidable_of_iff
    (c.entries[i]? = some l ∧ P l ∧ ∀ j < i, ∀ earlier ∈ c.entries[j]?, ¬ P earlier)
    ⟨fun h => ⟨h.1, h.2.1, h.2.2⟩, fun h => ⟨h.entry, h.holds, h.before⟩⟩

theorem IsFirst.place_unique {P : Layer → Prop} {j : Nat} {l' : Layer} (h : c.IsFirst P i l)
    (h' : c.IsFirst P j l') : i = j := by
  rcases Nat.lt_trichotomy i j with hlt | heq | hgt
  · exact absurd h.holds (h'.before i hlt l h.entry)
  · exact heq
  · exact absurd h'.holds (h.before j hgt l' h'.entry)

/-- A first entry is also the first with a stronger property that it has. -/
theorem IsFirst.strengthen {P Q : Layer → Prop} (h : c.IsFirst P i l) (hl : Q l)
    (hstronger : ∀ entry, Q entry → P entry) : c.IsFirst Q i l :=
  ⟨h.entry, hl, fun j hj earlier hearlier hQ => h.before j hj earlier hearlier (hstronger _ hQ)⟩

theorem find?_entries_eq_some_iff {P : Layer → Prop} {p : Layer → Bool}
    (hp : ∀ l, p l = true ↔ P l) : c.entries.find? p = some l ↔ ∃ i, c.IsFirst P i l := by
  rw [List.find?_eq_some_iff_getElem]
  constructor
  · rintro ⟨hl, i, hi, rfl, hbefore⟩
    refine ⟨i, List.getElem?_eq_getElem hi, (hp _).mp hl, fun j hj earlier hearlier hP => ?_⟩
    obtain ⟨_, rfl⟩ := List.getElem?_eq_some_iff.mp hearlier
    have hmiss := hbefore j hj
    rw [(hp _).mpr hP] at hmiss
    cases hmiss
  · rintro ⟨i, hentry, hl, hbefore⟩
    obtain ⟨hi, hget⟩ := List.getElem?_eq_some_iff.mp hentry
    refine ⟨(hp l).mpr hl, i, hi, hget, fun j hj => ?_⟩
    have hmiss := hbefore j hj _ (List.getElem?_eq_getElem (hj.trans hi))
    rw [← hp] at hmiss
    simpa using hmiss

theorem inWorkspace?_eq_some_iff {workspace name : String} :
    c.inWorkspace? workspace name = some l
      ↔ ∃ i, c.IsFirst (fun l => l.IsIn workspace name) i l := by
  refine find?_entries_eq_some_iff fun l => ?_
  rw [Bool.and_eq_true, decide_eq_true_iff, decide_eq_true_iff, and_comm]
  rfl

theorem inWorkspace?_eq_none_iff {workspace name : String} :
    c.inWorkspace? workspace name = none ↔ ∀ l ∈ c.entries, ¬ l.IsIn workspace name := by
  rw [inWorkspace?, List.find?_eq_none]
  simp [Layer.IsIn, and_comm]

theorem named?_eq_some_iff {name : String} :
    c.named? name = some l ↔ ∃ i, c.IsFirst (fun l => l.name = name) i l :=
  find?_entries_eq_some_iff fun _ => decide_eq_true_iff

/-! ### What a lookup finds -/

/-- Where an entry stands that a token is for, with the workspace that is preferred. -/
inductive FindsAt (c : Catalog) (token : String) (preferred : Option String) (i : Nat) (l : Layer) :
    Prop
  /-- What precedes the first colon is the workspace, whatever is preferred. -/
  | qualified (workspace name : String) (hcolon : ':' ∉ workspace.toList)
      (htoken : token = workspace ++ ":" ++ name)
      (hfirst : c.IsFirst (fun l => l.IsIn workspace name) i l)
  /-- A bare name is the first of the preferred workspace. -/
  | preferred (workspace : String) (hbare : ':' ∉ token.toList)
      (hpreferred : preferred = some workspace)
      (hfirst : c.IsFirst (fun l => l.IsIn workspace token) i l)
  /-- A bare name that is not in the preferred workspace is the first anywhere. -/
  | anywhere (hbare : ':' ∉ token.toList)
      (hmissing : ∀ workspace ∈ preferred, ∀ entry ∈ c.entries, ¬ entry.IsIn workspace token)
      (hfirst : c.IsFirst (fun l => l.name = token) i l)

theorem find?_qualified {workspace : String} (h : ':' ∉ workspace.toList) (name : String) :
    c.find? (workspace ++ ":" ++ name) preferred = c.inWorkspace? workspace name := by
  have hcut : Text.cut ':' (workspace ++ ":" ++ name) = some (workspace, name) :=
    Text.cut_append h name
  unfold find?
  rw [hcut]

theorem find?_bare (h : ':' ∉ token.toList) : c.find? token preferred
    = (preferred.bind fun workspace => c.inWorkspace? workspace token).or (c.named? token) := by
  unfold find?
  rw [Text.cut_of_notMem h]
  cases preferred <;> rfl

theorem FindsAt.find?_eq (h : c.FindsAt token preferred i l) :
    c.find? token preferred = some l := by
  cases h with
  | qualified workspace name hcolon htoken hfirst =>
    rw [htoken, find?_qualified hcolon]
    exact inWorkspace?_eq_some_iff.mpr ⟨i, hfirst⟩
  | preferred workspace hbare hpreferred hfirst =>
    have hfound : c.inWorkspace? workspace token = some l :=
      inWorkspace?_eq_some_iff.mpr ⟨i, hfirst⟩
    rw [find?_bare hbare, hpreferred, Option.bind_some, hfound, Option.some_or]
  | anywhere hbare hmissing hfirst =>
    have hnone : (preferred.bind fun workspace => c.inWorkspace? workspace token) = none := by
      rw [Option.bind_eq_none_iff]
      exact fun workspace hw => inWorkspace?_eq_none_iff.mpr (hmissing workspace hw)
    rw [find?_bare hbare, hnone, Option.none_or]
    exact named?_eq_some_iff.mpr ⟨i, hfirst⟩

theorem exists_findsAt (h : c.find? token preferred = some l) :
    ∃ i, c.FindsAt token preferred i l := by
  by_cases hcolon : ':' ∈ token.toList
  · obtain ⟨workspace, name, rfl, hworkspace⟩ := Text.exists_cut hcolon
    have hfound := (find?_qualified hworkspace name).symm.trans h
    obtain ⟨i, hfirst⟩ := inWorkspace?_eq_some_iff.mp hfound
    exact ⟨i, .qualified workspace name hworkspace rfl hfirst⟩
  · rw [find?_bare hcolon, Option.or_eq_some_iff] at h
    rcases h with hfound | ⟨hnone, hfound⟩
    · obtain ⟨workspace, hpreferred, hfound⟩ := Option.bind_eq_some_iff.mp hfound
      obtain ⟨i, hfirst⟩ := inWorkspace?_eq_some_iff.mp hfound
      exact ⟨i, .preferred workspace hcolon hpreferred hfirst⟩
    · obtain ⟨i, hfirst⟩ := named?_eq_some_iff.mp hfound
      rw [Option.bind_eq_none_iff] at hnone
      exact ⟨i, .anywhere hcolon
        (fun workspace hw => inWorkspace?_eq_none_iff.mp (hnone workspace hw)) hfirst⟩

/-- What a lookup finds is the entry at the place that the token is for. -/
theorem find?_eq_some_iff :
    c.find? token preferred = some l ↔ ∃ i, c.FindsAt token preferred i l :=
  ⟨exists_findsAt, fun ⟨_, h⟩ => h.find?_eq⟩

theorem FindsAt.place_unique {j : Nat} {l' : Layer} (h : c.FindsAt token preferred i l)
    (h' : c.FindsAt token preferred j l') : i = j := by
  cases h with
  | qualified workspace name hcolon htoken hfirst =>
    cases h' with
    | qualified workspace' name' hcolon' htoken' hfirst' =>
      have hcut : some (workspace, name) = some (workspace', name') := by
        rw [← Text.cut_append hcolon name, ← Text.cut_append hcolon' name']
        exact congrArg (Text.cut ':') (htoken.symm.trans htoken')
      cases hcut
      exact hfirst.place_unique hfirst'
    | preferred _ hbare => simp [htoken] at hbare
    | anywhere hbare => simp [htoken] at hbare
  | preferred workspace hbare hpreferred hfirst =>
    cases h' with
    | qualified _ _ _ htoken' => simp [htoken'] at hbare
    | preferred workspace' _ hpreferred' hfirst' =>
      cases hpreferred.symm.trans hpreferred'
      exact hfirst.place_unique hfirst'
    | anywhere _ hmissing =>
      exact absurd hfirst.holds
        (hmissing workspace hpreferred l (List.mem_of_getElem? hfirst.entry))
  | anywhere hbare hmissing hfirst =>
    cases h' with
    | qualified _ _ _ htoken' => simp [htoken'] at hbare
    | preferred workspace _ hpreferred hfirst' =>
      exact absurd hfirst'.holds
        (hmissing workspace hpreferred l' (List.mem_of_getElem? hfirst'.entry))
    | anywhere _ _ hfirst' => exact hfirst.place_unique hfirst'

/-! ### Looking up again -/

/-- What a lookup has found is the first entry with its name in its workspace, and an entry in no
workspace is found by its bare name only. -/
theorem FindsAt.isFirst (h : c.FindsAt token preferred i l) :
    (∀ workspace, l.workspace = some workspace →
      c.IsFirst (fun entry => entry.IsIn workspace l.name) i l)
    ∧ (l.workspace = none →
      ':' ∉ l.name.toList ∧ c.IsFirst (fun entry => entry.name = l.name) i l) := by
  have hin {workspace name : String} (hfirst : c.IsFirst (fun l => l.IsIn workspace name) i l) :
      (∀ w, l.workspace = some w → c.IsFirst (fun entry => entry.IsIn w l.name) i l)
      ∧ (l.workspace = none →
        ':' ∉ l.name.toList ∧ c.IsFirst (fun entry => entry.name = l.name) i l) := by
    obtain ⟨hworkspace, hname⟩ := hfirst.holds
    rw [hworkspace, hname]
    refine ⟨?_, nofun⟩
    rintro _ ⟨⟩
    exact hfirst
  cases h with
  | qualified workspace name hcolon htoken hfirst => exact hin hfirst
  | preferred workspace hbare hpreferred hfirst => exact hin hfirst
  | anywhere hbare hmissing hfirst =>
    have hname : l.name = token := hfirst.holds
    rw [hname]
    refine ⟨fun workspace hworkspace => ?_, fun _ => ⟨hbare, hfirst⟩⟩
    exact hfirst.strengthen ⟨hworkspace, hname⟩ fun entry h => h.2

/-- No workspace has a colon in its name, so that a qualified name is cut where it was joined. -/
def HasPlainWorkspaces (c : Catalog) : Prop :=
  ∀ l ∈ c.entries, ∀ workspace ∈ l.workspace, ':' ∉ workspace.toList

/-- The qualified name of an entry that was found leads back to its place. -/
theorem FindsAt.qualifiedName (hplain : c.HasPlainWorkspaces)
    (h : c.FindsAt token preferred i l) : c.FindsAt l.qualifiedName none i l := by
  obtain ⟨hin, hout⟩ := h.isFirst
  unfold Layer.qualifiedName
  cases hworkspace : l.workspace with
  | some workspace =>
    have hfirst := hin workspace hworkspace
    have hmem := List.mem_of_getElem? hfirst.entry
    exact .qualified workspace l.name (hplain l hmem workspace hworkspace) rfl hfirst
  | none =>
    obtain ⟨hbare, hfirst⟩ := hout hworkspace
    exact .anywhere hbare nofun hfirst

end Catalog

end MapMarkup
