import MapMarkup.Proofs.Catalog

/-!
# Catalogs that grow

Whether a token can be looked up is a matter of the names in a catalog, not of their order and not
of the workspace that is preferred: `Catalog.exists_find?_iff`. So entries that are added never make
a lookup fail (`Catalog.exists_find?_addAll`). They change what it finds only when a bare name was
found outside of the workspace that it prefers, which an added entry may be in
(`Catalog.find?_addAll`).
-/

namespace MapMarkup

/-- A token can stand for a name in a workspace or in none. -/
inductive StandsFor (token : String) (workspace : Option String) (name : String) : Prop
  /-- The token is the name with its workspace in front. -/
  | qualified (w : String) (hcolon : ':' ∉ w.toList) (hworkspace : workspace = some w)
      (htoken : token = w ++ ":" ++ name)
  /-- The token is the bare name. -/
  | bare (hbare : ':' ∉ token.toList) (hname : name = token)

def Layer.members (l : Layer) : List String :=
  match l.kind with
  | .layer => []
  | .group members => members

namespace Catalog

variable {c : Catalog} {token : String} {preferred : Option String} {i : Nat} {l : Layer}

/-- Some entry has a name that the token can stand for. -/
def Knows (c : Catalog) (token : String) : Prop :=
  ∃ l ∈ c.entries, StandsFor token l.workspace l.name

private theorem FindsAt.standsFor (h : c.FindsAt token preferred i l) :
    l ∈ c.entries ∧ StandsFor token l.workspace l.name := by
  cases h with
  | qualified workspace name hcolon htoken hfirst =>
    obtain ⟨hworkspace, hname⟩ := hfirst.holds
    refine ⟨List.mem_of_getElem? hfirst.entry, .qualified workspace hcolon hworkspace ?_⟩
    rw [htoken, hname]
  | preferred workspace hbare hpreferred hfirst =>
    exact ⟨List.mem_of_getElem? hfirst.entry, .bare hbare hfirst.holds.2⟩
  | anywhere hbare hmissing hfirst =>
    exact ⟨List.mem_of_getElem? hfirst.entry, .bare hbare hfirst.holds⟩

private theorem exists_inWorkspace?_iff {workspace name : String} :
    (∃ l, c.inWorkspace? workspace name = some l) ↔ ∃ l ∈ c.entries, l.IsIn workspace name := by
  rw [← Option.ne_none_iff_exists', ne_eq, inWorkspace?_eq_none_iff]
  simp

private theorem exists_named?_iff {name : String} :
    (∃ l, c.named? name = some l) ↔ ∃ l ∈ c.entries, l.name = name := by
  rw [← Option.ne_none_iff_exists', ne_eq, named?, List.find?_eq_none]
  simp

/-- The order of the entries and the preferred workspace decide which entry is found, but not
whether one is. -/
theorem exists_find?_iff : (∃ l, c.find? token preferred = some l) ↔ c.Knows token := by
  constructor
  · rintro ⟨l, hl⟩
    obtain ⟨i, hfound⟩ := exists_findsAt hl
    exact ⟨l, hfound.standsFor⟩
  · rintro ⟨l, hl, hstands⟩
    cases hstands with
    | qualified w hcolon hworkspace htoken =>
      rw [htoken, find?_qualified hcolon]
      exact exists_inWorkspace?_iff.mpr ⟨l, hl, hworkspace, rfl⟩
    | bare hbare hname =>
      obtain ⟨first, hfirst⟩ := exists_named?_iff.mpr ⟨l, hl, hname⟩
      rw [find?_bare hbare, hfirst]
      cases preferred.bind fun workspace => c.inWorkspace? workspace token with
      | none => exact ⟨first, rfl⟩
      | some own => exact ⟨own, rfl⟩

/-! ### Entries that are added -/

def addAll (c : Catalog) (ls : List Layer) : Catalog :=
  ls.foldl add c

variable {ls : List Layer}

@[simp]
theorem entries_addAll (c : Catalog) (ls : List Layer) :
    (c.addAll ls).entries = c.entries ++ ls := by
  induction ls generalizing c with
  | nil => exact (List.append_nil _).symm
  | cons l ls ih =>
    have hrest : (c.addAll (l :: ls)).entries = (c.add l).entries ++ ls := ih (c.add l)
    rw [hrest, add, List.append_assoc, List.singleton_append]

theorem addAll_eq (c : Catalog) (ls : List Layer) : c.addAll ls = ⟨c.entries ++ ls⟩ := by
  rw [← entries_addAll]

theorem knows_addAll_iff :
    (c.addAll ls).Knows token ↔ c.Knows token ∨ ∃ l ∈ ls, StandsFor token l.workspace l.name := by
  unfold Knows
  simp only [entries_addAll, List.mem_append, or_and_right, exists_or]

theorem IsFirst.addAll {P : Layer → Prop} (h : c.IsFirst P i l) (ls : List Layer) :
    (c.addAll ls).IsFirst P i l := by
  obtain ⟨hi, hget⟩ := List.getElem?_eq_some_iff.mp h.entry
  constructor
  · rw [entries_addAll, List.getElem?_append_left hi, h.entry]
  · exact h.holds
  · intro j hj earlier hearlier
    rw [entries_addAll, List.getElem?_append_left (hj.trans hi)] at hearlier
    exact h.before j hj earlier hearlier

/-- An entry that was found is found again behind a qualified name or without a preference. -/
theorem FindsAt.addAll (h : c.FindsAt token preferred i l)
    (hfixed : preferred = none ∨ ':' ∈ token.toList) (ls : List Layer) :
    (c.addAll ls).FindsAt token preferred i l := by
  cases h with
  | qualified workspace name hcolon htoken hfirst =>
    exact .qualified workspace name hcolon htoken (hfirst.addAll ls)
  | preferred workspace hbare hpreferred hfirst =>
    exact .preferred workspace hbare hpreferred (hfirst.addAll ls)
  | anywhere hbare hmissing hfirst =>
    have hnone : preferred = none := hfixed.resolve_right hbare
    refine .anywhere hbare (fun workspace hworkspace => ?_) (hfirst.addAll ls)
    rw [hnone] at hworkspace
    cases hworkspace

/-- A lookup that succeeds goes on to succeed when entries are added. -/
theorem exists_find?_addAll (h : c.find? token preferred = some l) (ls : List Layer) :
    ∃ l', (c.addAll ls).find? token preferred = some l' := by
  rw [exists_find?_iff, knows_addAll_iff]
  exact .inl (exists_find?_iff.mp ⟨l, h⟩)

theorem find?_addAll (h : c.find? token preferred = some l)
    (hfixed : preferred = none ∨ ':' ∈ token.toList) (ls : List Layer) :
    (c.addAll ls).find? token preferred = some l := by
  obtain ⟨i, hfound⟩ := exists_findsAt h
  exact (hfound.addAll hfixed ls).find?_eq

/-! ### Members -/

private theorem missingMember?_eq (c : Catalog) (l : Layer) :
    c.missingMember? l = l.members.find? fun m => (c.find? m l.workspace).isNone := by
  unfold missingMember? Layer.members
  cases l.kind <;> rfl

theorem missingMember?_eq_none_iff :
    c.missingMember? l = none ↔ ∀ m ∈ l.members, c.Knows m := by
  rw [missingMember?_eq, List.find?_eq_none]
  refine forall₂_congr fun m _ => ?_
  rw [← @exists_find?_iff c m l.workspace, ← Option.ne_none_iff_exists', ne_eq,
    Option.isNone_iff_eq_none]

theorem validate_eq_ok_iff :
    c.validate = .ok () ↔ ∀ l ∈ c.entries, ∀ m ∈ l.members, c.Knows m := by
  have hnone : (c.entries.findSome? fun l => (c.missingMember? l).map fun m => (l.name, m)) = none
      ↔ ∀ l ∈ c.entries, ∀ m ∈ l.members, c.Knows m := by
    rw [List.findSome?_eq_none_iff]
    refine forall₂_congr fun l _ => ?_
    rw [Option.map_eq_none_iff, missingMember?_eq_none_iff]
  rw [← hnone]
  unfold validate
  split
  case h_1 group member hsome =>
    rw [hsome]
    exact iff_of_false nofun nofun
  case h_2 hnone' => exact iff_of_true rfl hnone'

end Catalog

end MapMarkup
