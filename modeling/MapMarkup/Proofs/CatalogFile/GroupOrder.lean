import MapMarkup.Proofs.CatalogFile.Loading

/-!
# The order of groups

A group without a box of its own takes its bounds from what stands in front of it, so the order of
its groups decides whether a file loads: `CatalogFile.loads_permuted`. In a given order it loads
when all members are published and those of the groups without a box are layers or groups in front
of them. Some order will do when the bounds of every group come down to boxes
(`CatalogFile.Grounded`), which they do unless groups are defined through each other. Every order
will do only when groups without a box have layers for members.
-/

namespace MapMarkup

/-! ### Names of groups -/

namespace GroupEntry

variable {g : GroupEntry} {gs : List GroupEntry} {c c' : Catalog} {b : Box} {token : String}

def IsMeant (g : GroupEntry) (token : String) : Prop :=
  StandsFor token g.workspace g.name

theorem exists_entry_of_foldlM_addTo (h : gs.foldlM addTo c = .ok c') (hg : g ∈ gs) :
    ∃ b, g.toLayer b ∈ c'.entries := by
  obtain ⟨ls, rfl, _, hentries⟩ := exists_of_foldlM_addTo h
  obtain ⟨i, hi⟩ := List.mem_iff_getElem?.mp hg
  obtain ⟨b, hentry, _⟩ := hentries i g hi
  refine ⟨b, ?_⟩
  rw [Catalog.entries_addAll]
  exact List.mem_append_right _ (List.mem_of_getElem? hentry)

theorem cases_of_foldlM_addTo (h : gs.foldlM addTo c = .ok c') {l : Layer} (hl : l ∈ c'.entries) :
    l ∈ c.entries ∨ ∃ g ∈ gs, ∃ b, l = g.toLayer b := by
  obtain ⟨ls, rfl, hlength, hentries⟩ := exists_of_foldlM_addTo h
  rw [Catalog.entries_addAll, List.mem_append] at hl
  refine hl.imp_right fun hl => ?_
  obtain ⟨i, hi, rfl⟩ := List.mem_iff_getElem.mp hl
  have hg : gs[i]? = some gs[i] := List.getElem?_eq_getElem (hlength ▸ hi)
  obtain ⟨b, hentry, _⟩ := hentries i gs[i] hg
  rw [List.getElem?_eq_getElem hi] at hentry
  exact ⟨gs[i], List.getElem_mem _, b, Option.some.inj hentry⟩

theorem knows_of_foldlM_addTo (h : gs.foldlM addTo c = .ok c') :
    c'.Knows token ↔ c.Knows token ∨ ∃ g ∈ gs, g.IsMeant token := by
  constructor
  · rintro ⟨l, hl, hstands⟩
    rcases cases_of_foldlM_addTo h hl with hl | ⟨g, hg, b, rfl⟩
    · exact .inl ⟨l, hl, hstands⟩
    · exact .inr ⟨g, hg, hstands⟩
  · rintro (hknown | ⟨g, hg, hmeant⟩)
    · obtain ⟨ls, rfl, _⟩ := exists_of_foldlM_addTo h
      exact Catalog.knows_addAll_iff.mpr (.inl hknown)
    · obtain ⟨b, hb⟩ := exists_entry_of_foldlM_addTo h hg
      exact ⟨g.toLayer b, hb, hmeant⟩

end GroupEntry

namespace CatalogFile

variable {f : CatalogFile} {gs : List GroupEntry} {g : GroupEntry} {m : String}

/-! ### One order -/

def Loads (f : CatalogFile) : Prop :=
  ∃ c, f.catalog = .ok c

def withGroups (f : CatalogFile) (gs : List GroupEntry) : CatalogFile :=
  { f with groups := gs }

/-- The name stands for a layer of the file, or for one of some groups. -/
def Offers (f : CatalogFile) (gs : List GroupEntry) (m : String) : Prop :=
  (⟨f.layers⟩ : Catalog).Knows m ∨ ∃ g ∈ gs, g.IsMeant m

theorem Offers.mono {gs' : List GroupEntry} (h : f.Offers gs m) (hsub : ∀ g ∈ gs, g ∈ gs') :
    f.Offers gs' m :=
  h.imp_right fun ⟨g, hg, hmeant⟩ => ⟨g, hsub g hg, hmeant⟩

/-- All members are layers or groups of the file. -/
structure IsPublished (f : CatalogFile) : Prop where
  layers : ∀ l ∈ f.layers, ∀ m ∈ l.members, f.Offers f.groups m
  groups : ∀ g ∈ f.groups, ∀ m ∈ g.members, f.Offers f.groups m

private theorem isPublished_withGroups_iff (hperm : gs.Perm f.groups) :
    (f.withGroups gs).IsPublished ↔ f.IsPublished := by
  have hoffers (m : String) : (f.withGroups gs).Offers gs m ↔ f.Offers f.groups m :=
    ⟨fun h => Offers.mono h fun _ => hperm.mem_iff.mp,
      fun h => Offers.mono h fun _ => hperm.mem_iff.mpr⟩
  constructor
  · intro h
    exact ⟨fun l hl m hm => (hoffers m).mp (h.layers l hl m hm),
      fun g hg m hm => (hoffers m).mp (h.groups g (hperm.mem_iff.mpr hg) m hm)⟩
  · intro h
    exact ⟨fun l hl m hm => (hoffers m).mpr (h.layers l hl m hm),
      fun g hg m hm => (hoffers m).mpr (h.groups g (hperm.mem_iff.mp hg) m hm)⟩

/-- The group has a box of its own, or members all of which have a property. -/
def HasBounds (P : String → Prop) (g : GroupEntry) : Prop :=
  g.bounds = none → g.members ≠ [] ∧ ∀ m ∈ g.members, P m

theorem HasBounds.mono {P Q : String → Prop} (h : HasBounds P g) (hPQ : ∀ m, P m → Q m) :
    HasBounds Q g :=
  fun hnone => ⟨(h hnone).1, fun m hm => hPQ m ((h hnone).2 m hm)⟩

/-- The members of each group without a box are layers or groups in front of it. -/
def InOrder (f : CatalogFile) (gs : List GroupEntry) : Prop :=
  ∀ before g after, gs = before ++ g :: after → HasBounds (f.Offers before) g

private theorem inOrder_nil (f : CatalogFile) : f.InOrder [] := by
  intro before g after h
  exact absurd h.symm (List.append_ne_nil_of_right_ne_nil _ (List.cons_ne_nil g after))

theorem inOrder_concat_iff :
    f.InOrder (gs ++ [g]) ↔ f.InOrder gs ∧ HasBounds (f.Offers gs) g := by
  constructor
  · intro h
    refine ⟨fun before g' after hsplit => h before g' (after ++ [g]) ?_, h gs g [] rfl⟩
    rw [hsplit, List.append_assoc, List.cons_append]
  · rintro ⟨hgs, hg⟩ before g' after hsplit
    rcases List.eq_nil_or_concat after with rfl | ⟨front, last, rfl⟩
    · obtain ⟨rfl, hlast⟩ := List.append_inj' hsplit rfl
      cases hlast
      exact hg
    · rw [List.concat_eq_append, ← List.cons_append, ← List.append_assoc] at hsplit
      obtain ⟨rfl, _⟩ := List.append_inj' hsplit rfl
      exact hgs before g' front rfl

/-- Groups can be added one after the other exactly when they are in order. -/
theorem exists_foldlM_addTo_iff :
    (∃ c, gs.foldlM GroupEntry.addTo ⟨f.layers⟩ = .ok c) ↔ f.InOrder gs := by
  induction gs using List.reverseRecOn with
  | nil => exact iff_of_true ⟨_, rfl⟩ f.inOrder_nil
  | append_singleton gs g ih =>
    rw [inOrder_concat_iff, ← ih]
    have hstep {c : Catalog} (hc : gs.foldlM GroupEntry.addTo ⟨f.layers⟩ = .ok c) :
        (∃ c', g.addTo c = .ok c') ↔ HasBounds (f.Offers gs) g := by
      have hbounds : (∃ c', g.addTo c = .ok c') ↔ ∃ b, g.boundsIn c = .ok b := by
        simp only [GroupEntry.addTo_eq_ok_iff]
        exact ⟨fun ⟨_, b, hb, _⟩ => ⟨b, hb⟩, fun ⟨b, hb⟩ => ⟨_, b, hb, rfl⟩⟩
      rw [hbounds, GroupEntry.exists_boundsIn_iff]
      refine imp_congr_right fun _ => and_congr_right fun _ => forall₂_congr fun m _ => ?_
      exact GroupEntry.knows_of_foldlM_addTo hc
    rw [List.foldlM_append]
    constructor
    · rintro ⟨c', h⟩
      obtain ⟨c, hc, h⟩ := bind_eq_ok_iff.mp h
      rw [List.foldlM_cons] at h
      obtain ⟨next, hnext, _⟩ := bind_eq_ok_iff.mp h
      exact ⟨⟨c, hc⟩, (hstep hc).mp ⟨next, hnext⟩⟩
    · rintro ⟨⟨c, hc⟩, hg⟩
      obtain ⟨c', hc'⟩ := (hstep hc).mpr hg
      refine ⟨c', bind_eq_ok_iff.mpr ⟨c, hc, ?_⟩⟩
      rw [List.foldlM_cons]
      exact bind_eq_ok_iff.mpr ⟨c', hc', rfl⟩

/-- A file loads exactly when its members are published and its groups are in order. -/
theorem loads_iff : f.Loads ↔ f.IsPublished ∧ f.InOrder f.groups := by
  unfold Loads
  rw [← exists_foldlM_addTo_iff]
  simp only [catalog_eq_ok_iff]
  constructor
  · rintro ⟨c, hbuilt, hknown⟩
    have hoffers (m : String) : c.Knows m ↔ f.Offers f.groups m :=
      GroupEntry.knows_of_foldlM_addTo hbuilt
    refine ⟨⟨fun l hl m hm => (hoffers m).mp ?_, fun g hg m hm => (hoffers m).mp ?_⟩, c, hbuilt⟩
    · obtain ⟨ls, rfl, _⟩ := GroupEntry.exists_of_foldlM_addTo hbuilt
      refine hknown l ?_ m hm
      rw [Catalog.entries_addAll]
      exact List.mem_append_left _ hl
    · obtain ⟨b, hb⟩ := GroupEntry.exists_entry_of_foldlM_addTo hbuilt hg
      exact hknown _ hb m hm
  · rintro ⟨hpublished, c, hbuilt⟩
    refine ⟨c, hbuilt, fun l hl m hm => (GroupEntry.knows_of_foldlM_addTo hbuilt).mpr ?_⟩
    rcases GroupEntry.cases_of_foldlM_addTo hbuilt hl with hl | ⟨g, hg, b, rfl⟩
    · exact hpublished.layers l hl m hm
    · exact hpublished.groups g hg m hm

theorem loads_withGroups_iff (hperm : gs.Perm f.groups) :
    (f.withGroups gs).Loads ↔ f.IsPublished ∧ f.InOrder gs := by
  rw [loads_iff, isPublished_withGroups_iff hperm]
  rfl

/-! ### Some order -/

/-- The name comes down to boxes: it stands for a layer, for a group with a box, or for a group all
of whose members come down to boxes. -/
inductive Grounded (f : CatalogFile) : String → Prop
  | layer {m : String} (hknown : (⟨f.layers⟩ : Catalog).Knows m) : Grounded f m
  | box {m : String} (g : GroupEntry) (hg : g ∈ f.groups) (hmeant : g.IsMeant m)
      (hbounds : g.bounds ≠ none) : Grounded f m
  | union {m : String} (g : GroupEntry) (hg : g ∈ f.groups) (hmeant : g.IsMeant m)
      (hmembers : ∀ m' ∈ g.members, Grounded f m') : Grounded f m

/-- What groups in order offer comes down to boxes. -/
theorem InOrder.grounded (hmem : ∀ g ∈ gs, g ∈ f.groups) (h : f.InOrder gs)
    (hoffers : f.Offers gs m) : f.Grounded m := by
  induction gs using List.reverseRecOn generalizing m with
  | nil =>
    obtain hknown | ⟨g, hg, _⟩ := hoffers
    · exact .layer hknown
    · exact absurd hg List.not_mem_nil
  | append_singleton gs last ih =>
    obtain ⟨hgs, hlast⟩ := inOrder_concat_iff.mp h
    have hfront {m : String} : f.Offers gs m → f.Grounded m :=
      ih (fun g hg => hmem g (List.mem_append_left _ hg)) hgs
    obtain hknown | ⟨g, hg, hmeant⟩ := hoffers
    · exact .layer hknown
    · rcases List.mem_append.mp hg with hg | hg
      · exact hfront (.inr ⟨g, hg, hmeant⟩)
      · obtain rfl := List.mem_singleton.mp hg
        have hfile := hmem g (List.mem_append_right _ hg)
        by_cases hbounds : g.bounds = none
        · exact .union g hfile hmeant fun m' hm' => hfront ((hlast hbounds).2 m' hm')
        · exact .box g hfile hmeant hbounds

/-- As long as groups are left over, one of them can be next. -/
theorem exists_next {placed rest : List GroupEntry}
    (hall : ∀ g ∈ f.groups, g ∈ placed ∨ g ∈ rest)
    (hrest : ∀ g ∈ rest, g.bounds = none ∧ ∀ m ∈ g.members, f.Grounded m) (hne : rest ≠ []) :
    ∃ g ∈ rest, ∀ m ∈ g.members, f.Offers placed m := by
  by_contra hnone
  push Not at hnone
  have hoffers (m : String) (h : f.Grounded m) : f.Offers placed m := by
    induction h with
    | layer hknown => exact .inl hknown
    | box g hg hmeant hbounds =>
      rcases hall g hg with hplaced | hleft
      · exact .inr ⟨g, hplaced, hmeant⟩
      · exact absurd (hrest g hleft).1 hbounds
    | union g hg hmeant _ ih =>
      rcases hall g hg with hplaced | hleft
      · exact .inr ⟨g, hplaced, hmeant⟩
      · obtain ⟨m', hm', hmissing⟩ := hnone g hleft
        exact absurd (ih m' hm') hmissing
  obtain ⟨g, hg⟩ := List.exists_mem_of_ne_nil rest hne
  obtain ⟨m, hm, hmissing⟩ := hnone g hg
  exact hmissing (hoffers m ((hrest g hg).2 m hm))

private theorem exists_inOrder_append {placed rest : List GroupEntry}
    (hall : ∀ g ∈ f.groups, g ∈ placed ∨ g ∈ rest)
    (hrest : ∀ g ∈ rest, g.bounds = none ∧ HasBounds f.Grounded g) (hplaced : f.InOrder placed) :
    ∃ gs, gs.Perm (placed ++ rest) ∧ f.InOrder gs := by
  induction hlength : rest.length generalizing placed rest with
  | zero =>
    obtain rfl := List.eq_nil_of_length_eq_zero hlength
    exact ⟨placed, by rw [List.append_nil], hplaced⟩
  | succ n ih =>
    have hne : rest ≠ [] := List.ne_nil_of_length_eq_add_one hlength
    obtain ⟨g, hg, hoffers⟩ := exists_next hall
      (fun g hg => ⟨(hrest g hg).1, ((hrest g hg).2 (hrest g hg).1).2⟩) hne
    have hperm : rest.Perm (g :: rest.erase g) := List.perm_cons_erase hg
    have hnext : f.InOrder (placed ++ [g]) := by
      refine inOrder_concat_iff.mpr ⟨hplaced, fun hnone => ⟨?_, hoffers⟩⟩
      exact ((hrest g hg).2 hnone).1
    have hall' : ∀ g' ∈ f.groups, g' ∈ placed ++ [g] ∨ g' ∈ rest.erase g := by
      intro g' hg'
      rcases hall g' hg' with h | h
      · exact .inl (List.mem_append_left _ h)
      · rcases List.mem_cons.mp (hperm.mem_iff.mp h) with rfl | h
        · exact .inl (List.mem_append_right _ (List.mem_singleton_self _))
        · exact .inr h
    have hlength' : (rest.erase g).length = n := by
      have hcons := hperm.length_eq
      rw [List.length_cons, hlength] at hcons
      exact (Nat.succ.inj hcons).symm
    obtain ⟨gs, hgs, horder⟩ :=
      ih hall' (fun g' hg' => hrest g' (List.mem_of_mem_erase hg')) hnext hlength'
    refine ⟨gs, hgs.trans ?_, horder⟩
    rw [List.append_assoc, List.singleton_append]
    exact hperm.symm.append_left placed

/-- Some order puts every group behind its members exactly when the bounds of all groups come down
to boxes. -/
theorem exists_inOrder_iff : (∃ gs, gs.Perm f.groups ∧ f.InOrder gs)
    ↔ ∀ g ∈ f.groups, HasBounds f.Grounded g := by
  constructor
  · rintro ⟨gs, hperm, horder⟩ g hg
    obtain ⟨before, after, rfl⟩ := List.append_of_mem (hperm.mem_iff.mpr hg)
    have hmem : ∀ g' ∈ before, g' ∈ f.groups := fun g' hg' =>
      hperm.mem_iff.mp (List.mem_append_left _ hg')
    have hbefore : f.InOrder before := fun front g' after' hsplit =>
      horder front g' (after' ++ g :: after) (by rw [hsplit, List.append_assoc, List.cons_append])
    exact (horder before g after rfl).mono fun m hm => hbefore.grounded hmem hm
  · intro hgrounded
    let boxed := f.groups.filter fun g => g.bounds.isSome
    let rest := f.groups.filter fun g => !g.bounds.isSome
    have hall : ∀ g ∈ f.groups, g ∈ boxed ∨ g ∈ rest := by
      intro g hg
      cases h : g.bounds.isSome with
      | true => exact .inl (List.mem_filter.mpr ⟨hg, h⟩)
      | false => exact .inr (List.mem_filter.mpr ⟨hg, by rw [h]; rfl⟩)
    have hrest : ∀ g ∈ rest, g.bounds = none ∧ HasBounds f.Grounded g := by
      intro g hg
      obtain ⟨hmem, hnone⟩ := List.mem_filter.mp hg
      exact ⟨by simpa using hnone, hgrounded g hmem⟩
    have hboxed : f.InOrder boxed := by
      intro before g after hsplit hnone
      have hg : g ∈ boxed := hsplit ▸ List.mem_append_right _ List.mem_cons_self
      have hsome := (List.mem_filter.mp hg).2
      rw [hnone] at hsome
      cases hsome
    obtain ⟨gs, hperm, horder⟩ := exists_inOrder_append hall hrest hboxed
    exact ⟨gs, hperm.trans (List.filter_append_perm _ f.groups), horder⟩

/-! ### Groups that are defined through each other -/

structure Needs (f : CatalogFile) (g g' : GroupEntry) : Prop where
  mem : g ∈ f.groups ∧ g' ∈ f.groups
  bounds : g.bounds = none ∧ g'.bounds = none
  member : ∃ m ∈ g.members, g'.IsMeant m

/-- No group without a box is defined through itself. -/
def IsAcyclic (f : CatalogFile) : Prop :=
  ∀ g, ¬ Relation.TransGen f.Needs g g

private theorem IsAcyclic.wellFounded (h : f.IsAcyclic) :
    WellFounded fun a b : {g // g ∈ f.groups} => f.Needs b.1 a.1 := by
  let through (a b : {g // g ∈ f.groups}) : Prop := Relation.TransGen f.Needs b.1 a.1
  have : Finite {g // g ∈ f.groups} := (List.finite_toSet f.groups).to_subtype
  have : IsTrans _ through := ⟨fun _ _ _ hab hbc => hbc.trans hab⟩
  have : Std.Irrefl through := ⟨fun a => h a.1⟩
  have hwf : WellFounded through := Finite.wellFounded_of_trans_of_irrefl through
  exact hwf.mono fun _ _ => Relation.TransGen.single

/-- Without a cycle the bounds of groups with published members come down to boxes. -/
theorem IsAcyclic.grounded (h : f.IsAcyclic) (hpublished : f.IsPublished) (hg : g ∈ f.groups)
    (hm : m ∈ g.members) : f.Grounded m := by
  have hcase {g : GroupEntry} (hg : g ∈ f.groups) {m : String} (hm : m ∈ g.members)
      (hunion : ∀ g' ∈ f.groups, g'.IsMeant m → g'.bounds = none →
        ∀ m' ∈ g'.members, f.Grounded m') : f.Grounded m := by
    obtain hknown | ⟨g', hg', hmeant⟩ := hpublished.groups g hg m hm
    · exact .layer hknown
    · by_cases hbounds : g'.bounds = none
      · exact .union g' hg' hmeant (hunion g' hg' hmeant hbounds)
      · exact .box g' hg' hmeant hbounds
  have hall (a : {g // g ∈ f.groups}) :
      a.1.bounds = none → ∀ m ∈ a.1.members, f.Grounded m := by
    induction a using h.wellFounded.induction with
    | h a ih =>
      intro hnone m hm
      refine hcase a.2 hm fun g' hg' hmeant hbounds => ih ⟨g', hg'⟩ ?_ hbounds
      exact ⟨⟨a.2, hg'⟩, ⟨hnone, hbounds⟩, m, hm, hmeant⟩
  exact hcase hg hm fun g' hg' _ hbounds => hall ⟨g', hg'⟩ hbounds

/-! ### Every order -/

/-- Every order puts the groups behind their members exactly when the members of those without a box
are layers. -/
theorem forall_inOrder_iff : (∀ gs, gs.Perm f.groups → f.InOrder gs)
    ↔ ∀ g ∈ f.groups, HasBounds (⟨f.layers⟩ : Catalog).Knows g := by
  constructor
  · intro h g hg
    have hfirst := h (g :: f.groups.erase g) (List.perm_cons_erase hg).symm [] g _ rfl
    exact hfirst.mono fun m hm => hm.resolve_right fun ⟨_, hg, _⟩ => absurd hg List.not_mem_nil
  · rintro h gs hperm before g after rfl
    have hg : g ∈ f.groups := hperm.mem_iff.mp (List.mem_append_right _ List.mem_cons_self)
    exact (h g hg).mono fun m hm => .inl hm

/-- **In which orders a file loads.** A file with published members alone loads in exactly the
orders that put each group without a box of its own behind its members. -/
theorem loads_permuted (f : CatalogFile) :
    (∀ gs, gs.Perm f.groups → ((f.withGroups gs).Loads ↔ f.IsPublished ∧ f.InOrder gs))
    ∧ ((∃ gs, gs.Perm f.groups ∧ (f.withGroups gs).Loads)
      ↔ f.IsPublished ∧ ∀ g ∈ f.groups, HasBounds f.Grounded g)
    ∧ ((∀ gs, gs.Perm f.groups → (f.withGroups gs).Loads)
      ↔ f.IsPublished ∧ ∀ g ∈ f.groups, HasBounds (⟨f.layers⟩ : Catalog).Knows g)
    ∧ (f.IsPublished → f.IsAcyclic → (∀ g ∈ f.groups, g.bounds = none → g.members ≠ []) →
      ∃ gs, gs.Perm f.groups ∧ (f.withGroups gs).Loads) := by
  have hsome : (∃ gs, gs.Perm f.groups ∧ (f.withGroups gs).Loads)
      ↔ f.IsPublished ∧ ∀ g ∈ f.groups, HasBounds f.Grounded g := by
    rw [← exists_inOrder_iff]
    constructor
    · rintro ⟨gs, hperm, hloads⟩
      obtain ⟨hpublished, horder⟩ := (loads_withGroups_iff hperm).mp hloads
      exact ⟨hpublished, gs, hperm, horder⟩
    · rintro ⟨hpublished, gs, hperm, horder⟩
      exact ⟨gs, hperm, (loads_withGroups_iff hperm).mpr ⟨hpublished, horder⟩⟩
  refine ⟨fun gs hperm => loads_withGroups_iff hperm, hsome, ?_, fun hpublished hacyclic hne => ?_⟩
  · rw [← forall_inOrder_iff]
    constructor
    · intro h
      have hall gs hperm := (loads_withGroups_iff hperm).mp (h gs hperm)
      exact ⟨(hall f.groups (.refl _)).1, fun gs hperm => (hall gs hperm).2⟩
    · rintro ⟨hpublished, horder⟩ gs hperm
      exact (loads_withGroups_iff hperm).mpr ⟨hpublished, horder gs hperm⟩
  · refine hsome.mpr ⟨hpublished, fun g hg hnone => ⟨hne g hg hnone, fun m hm => ?_⟩⟩
    exact hacyclic.grounded hpublished hg hm

/-- A group of a group, both without a box, loads behind the other group and not in front of it,
where the member is said to be unknown. -/
theorem loads_dependsOnOrder : ∃ (f : CatalogFile) (gs : List GroupEntry), gs.Perm f.groups
    ∧ f.IsPublished ∧ f.IsAcyclic ∧ (∀ g ∈ f.groups, g.bounds = none → g.members ≠ [])
    ∧ f.catalog = .error (.unknownMember "all" "water") ∧ (f.withGroups gs).Loads := by
  let water : GroupEntry := ⟨"water", none, none, ["lakes"], none, true, none⟩
  let all : GroupEntry := ⟨"all", none, none, ["water"], none, true, none⟩
  let f : CatalogFile :=
    { service := {}, layers := [{ name := "lakes", bounds := Box.world }], groups := [all, water] }
  have hlakes : StandsFor "lakes" none "lakes" := .bare (by decide) rfl
  have hwater : water.IsMeant "water" := .bare (by decide) rfl
  have hpublished : f.IsPublished := by
    constructor
    · simp [f, Layer.members]
    · simp only [f, List.forall_mem_cons, List.not_mem_nil, false_implies, implies_true, and_true,
        all, water]
      exact ⟨.inr ⟨water, by simp [water], hwater⟩, .inl ⟨_, List.mem_singleton_self _, hlakes⟩⟩
  have hmeant {g : GroupEntry} {m : String} (hg : g ∈ f.groups) (h : g.IsMeant m) :
      m = g.name := by
    simp only [f, List.mem_cons, List.not_mem_nil, or_false] at hg
    rcases hg with rfl | rfl <;> cases h with
    | qualified w _ hw => cases hw
    | bare _ hname => exact hname.symm
  have hneeds {g g' : GroupEntry} (h : f.Needs g g') : g = all ∧ g' = water := by
    obtain ⟨⟨hg, hg'⟩, _, m, hm, hm'⟩ := h
    obtain rfl := hmeant hg' hm'
    simp only [f, List.mem_cons, List.not_mem_nil, or_false] at hg hg'
    rcases hg with rfl | rfl <;> rcases hg' with rfl | rfl <;> simp_all [all, water]
  have hacyclic : f.IsAcyclic := by
    intro g hcycle
    have hends : g = all ∧ g = water := by
      obtain ⟨_, hfirst, _⟩ := Relation.TransGen.head'_iff.mp hcycle
      obtain ⟨_, _, hlast⟩ := Relation.TransGen.tail'_iff.mp hcycle
      exact ⟨(hneeds hfirst).1, (hneeds hlast).2⟩
    exact absurd (hends.1.symm.trans hends.2) (by decide +kernel)
  have hloads : (f.withGroups [water, all]).Loads := by
    have hsize : (f.withGroups [water, all]).catalog.map Catalog.size = .ok 3 := by
      decide +kernel
    obtain ⟨c, hc, _⟩ := map_eq_ok_iff.mp hsize
    exact ⟨c, hc⟩
  have herror : f.catalog.map Catalog.size = .error (.unknownMember "all" "water") := by
    decide +kernel
  refine ⟨f, [water, all], .swap all water [], hpublished, hacyclic, ?_,
    map_eq_error_iff.mp herror, hloads⟩
  simp [f, all, water]

end CatalogFile

end MapMarkup
