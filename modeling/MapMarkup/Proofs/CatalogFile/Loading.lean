import MapMarkup.CatalogFile
import MapMarkup.Proofs.Box.Union
import MapMarkup.Proofs.Catalog.Growth
import MapMarkup.Proofs.Outcome

/-!
# Loading a catalog file

The catalog of a file has the layers of the file and behind them its groups, each with the bounds
that it gives itself or that the entries in front of it give its members
(`CatalogFile.IsLoadedAs`). Whether a group without a box of its own can be added is a matter of
names only (`GroupEntry.exists_boundsIn_iff`). Its members are known from then on, so that the final
check has nothing to say about it (`GroupEntry.missingMember?_toLayer`).
-/

namespace MapMarkup

namespace GroupEntry

variable {g : GroupEntry} {c c' : Catalog} {b : Box} {m : String}

/-! ### The bounds of one group -/

inductive IsBoundedBy (g : GroupEntry) (c : Catalog) (b : Box) : Prop
  /-- A group has the box that it gives itself. -/
  | own (hbounds : g.bounds = some b)
  /-- Any other group has the union of the bounds that its members have in the catalog. -/
  | union (boxes : List Box) (hbounds : g.bounds = none)
      (hmembers : List.Forall₂ (fun m box => ∃ l, c.find? m g.workspace = some l ∧ l.bounds = box)
        g.members boxes)
      (hunion : b.IsUnion boxes)

theorem memberBounds_eq_ok_iff :
    g.memberBounds c m = .ok b ↔ ∃ l, c.find? m g.workspace = some l ∧ l.bounds = b := by
  unfold memberBounds
  cases c.find? m g.workspace <;> simp

theorem boundsIn_eq_ok_iff (hbounds : g.bounds = none) : g.boundsIn c = .ok b ↔
    ∃ first rest, g.members.mapM (g.memberBounds c) = .ok (first :: rest)
      ∧ b = rest.foldl Box.union first := by
  unfold boundsIn
  rw [hbounds]
  constructor
  · intro h
    obtain ⟨boxes, hboxes, h⟩ := bind_eq_ok_iff.mp h
    cases boxes with
    | nil => cases h
    | cons first rest =>
      cases h
      exact ⟨first, rest, hboxes, rfl⟩
  · rintro ⟨first, rest, hboxes, rfl⟩
    exact bind_eq_ok_iff.mpr ⟨first :: rest, hboxes, rfl⟩

private theorem isBoundedBy_of_boundsIn (h : g.boundsIn c = .ok b) : g.IsBoundedBy c b := by
  cases hbounds : g.bounds with
  | some own =>
    unfold boundsIn at h
    rw [hbounds] at h
    cases h
    exact .own hbounds
  | none =>
    obtain ⟨first, rest, hboxes, rfl⟩ := (boundsIn_eq_ok_iff hbounds).mp h
    refine .union (first :: rest) hbounds ?_ (Box.isUnion_foldl first rest)
    exact (mapM_eq_ok_iff.mp hboxes).imp fun _ _ => memberBounds_eq_ok_iff.mp

/-- A group without a box of its own needs members, all of which the entries in front of it have to
know. -/
theorem exists_boundsIn_iff : (∃ b, g.boundsIn c = .ok b)
    ↔ (g.bounds = none → g.members ≠ [] ∧ ∀ m ∈ g.members, c.Knows m) := by
  have hknown (m : String) : (∃ b, g.memberBounds c m = .ok b) ↔ c.Knows m := by
    rw [← @Catalog.exists_find?_iff c m g.workspace]
    constructor
    · rintro ⟨b, hb⟩
      obtain ⟨l, hl, _⟩ := memberBounds_eq_ok_iff.mp hb
      exact ⟨l, hl⟩
    · rintro ⟨l, hl⟩
      exact ⟨l.bounds, memberBounds_eq_ok_iff.mpr ⟨l, hl, rfl⟩⟩
  cases hbounds : g.bounds with
  | some own =>
    have hown : g.boundsIn c = .ok own := by
      unfold boundsIn
      rw [hbounds]
    exact iff_of_true ⟨own, hown⟩ nofun
  | none =>
    constructor
    · rintro ⟨b, hb⟩ _
      obtain ⟨first, rest, hboxes, _⟩ := (boundsIn_eq_ok_iff hbounds).mp hb
      refine ⟨?_, fun m hm => (hknown m).mp (exists_mapM_iff.mp ⟨_, hboxes⟩ m hm)⟩
      rintro hnil
      rw [hnil] at hboxes
      cases hboxes
    · intro h
      obtain ⟨hne, hmembers⟩ := h rfl
      obtain ⟨boxes, hboxes⟩ := exists_mapM_iff.mpr fun m hm => (hknown m).mpr (hmembers m hm)
      cases boxes with
      | nil =>
        have hlength := (mapM_eq_ok_iff.mp hboxes).length_eq
        exact absurd (List.eq_nil_of_length_eq_zero hlength) hne
      | cons first rest =>
        exact ⟨_, (boundsIn_eq_ok_iff hbounds).mpr ⟨first, rest, hboxes, rfl⟩⟩

/-- The final check never rejects a group whose bounds were computed, whatever is added behind it.
-/
theorem missingMember?_toLayer (hbounds : g.bounds = none) (h : g.boundsIn c = .ok b)
    (ls : List Layer) : (c.addAll ls).missingMember? (g.toLayer b) = none := by
  have hknown := (exists_boundsIn_iff.mp ⟨b, h⟩ hbounds).2
  rw [Catalog.missingMember?_eq_none_iff]
  exact fun m hm => Catalog.knows_addAll_iff.mpr (.inl (hknown m hm))

/-! ### One group after the other -/

theorem addTo_eq_ok_iff :
    g.addTo c = .ok c' ↔ ∃ b, g.boundsIn c = .ok b ∧ c.add (g.toLayer b) = c' :=
  map_eq_ok_iff

/-- The entries of groups, each with the bounds that the entries in front of it give it. -/
theorem exists_of_foldlM_addTo {gs : List GroupEntry} (h : gs.foldlM addTo c = .ok c') :
    ∃ ls, c' = c.addAll ls ∧ ls.length = gs.length
      ∧ ∀ (i : Nat) (g : GroupEntry), gs[i]? = some g → ∃ b, ls[i]? = some (g.toLayer b)
        ∧ g.boundsIn (c.addAll (ls.take i)) = .ok b := by
  induction gs generalizing c with
  | nil =>
    cases h
    exact ⟨[], rfl, rfl, nofun⟩
  | cons first rest ih =>
    rw [List.foldlM_cons] at h
    obtain ⟨next, hnext, h⟩ := bind_eq_ok_iff.mp h
    obtain ⟨b, hb, rfl⟩ := addTo_eq_ok_iff.mp hnext
    obtain ⟨ls, rfl, hlength, hentries⟩ := ih h
    refine ⟨first.toLayer b :: ls, rfl, congrArg (· + 1) hlength, ?_⟩
    rintro (_ | i) g hg
    · cases hg
      exact ⟨b, rfl, hb⟩
    · exact hentries i g hg

end GroupEntry

/-! ### The whole file -/

namespace CatalogFile

variable {f : CatalogFile} {c : Catalog}

/-- The catalog is what the file says, in the order in which the file says it. -/
structure IsLoadedAs (f : CatalogFile) (c : Catalog) : Prop where
  /-- There is one entry for each layer and each group. -/
  size : c.size = f.layers.length + f.groups.length
  /-- The layers come first. -/
  layers : c.entries.take f.layers.length = f.layers
  /-- The groups follow, with the bounds that what is in front of them gives them. -/
  groups : ∀ i g, f.groups[i]? = some g → ∃ b,
    c.entries[f.layers.length + i]? = some (g.toLayer b)
      ∧ g.IsBoundedBy ⟨c.entries.take (f.layers.length + i)⟩ b
  /-- The members of every listed group, and of every entry, can be looked up. -/
  members : (∀ g ∈ f.groups, ∀ m ∈ g.members, ∃ found, c.find? m g.workspace = some found)
    ∧ ∀ l ∈ c.entries, ∀ m ∈ l.members, ∃ found, c.find? m l.workspace = some found

/-- A file is loaded when its groups can be added one by one and the outcome knows all members. -/
theorem catalog_eq_ok_iff : f.catalog = .ok c ↔
    f.groups.foldlM GroupEntry.addTo ⟨f.layers⟩ = .ok c
      ∧ ∀ l ∈ c.entries, ∀ m ∈ l.members, c.Knows m := by
  unfold catalog
  rw [bind_eq_ok_iff, ← Catalog.validate_eq_ok_iff]
  constructor
  · rintro ⟨built, hbuilt, h⟩
    split at h
    case h_1 hvalid =>
      cases h
      exact ⟨hbuilt, hvalid⟩
    case h_2 => cases h
  · rintro ⟨hbuilt, hvalid⟩
    refine ⟨c, hbuilt, ?_⟩
    rw [hvalid]

private theorem isLoadedAs_of_catalog (h : f.catalog = .ok c) : f.IsLoadedAs c := by
  obtain ⟨hbuilt, hknown⟩ := catalog_eq_ok_iff.mp h
  obtain ⟨ls, rfl, hlength, hentries⟩ := GroupEntry.exists_of_foldlM_addTo hbuilt
  constructor
  · rw [Catalog.size, Catalog.entries_addAll, List.length_append, hlength]
  · rw [Catalog.entries_addAll, List.take_left]
  · intro i g hg
    obtain ⟨b, hentry, hb⟩ := hentries i g hg
    have hfront : (⟨f.layers⟩ : Catalog).addAll (ls.take i)
        = ⟨((⟨f.layers⟩ : Catalog).addAll ls).entries.take (f.layers.length + i)⟩ := by
      rw [Catalog.addAll_eq, Catalog.addAll_eq, List.take_length_add_append]
    refine ⟨b, ?_, ?_⟩
    · rw [Catalog.entries_addAll, List.getElem?_append_right (Nat.le_add_right _ _),
        Nat.add_sub_cancel_left, hentry]
    · rw [← hfront]
      exact GroupEntry.isBoundedBy_of_boundsIn hb
  · refine ⟨fun g hg m hm => Catalog.exists_find?_iff.mpr ?_, fun l hl m hm =>
      Catalog.exists_find?_iff.mpr (hknown l hl m hm)⟩
    obtain ⟨i, hi⟩ := List.getElem?_of_mem hg
    obtain ⟨b, hentry, _⟩ := hentries i g hi
    refine hknown (g.toLayer b) ?_ m hm
    rw [Catalog.entries_addAll]
    exact List.mem_append_right _ (List.mem_of_getElem? hentry)

/-- **A catalog that was loaded is sound and keeps the order of its file.** Its members can be
looked up, its groups have the bounds that what is in front of them gives them, and entries that are
added disturb no lookup. -/
theorem catalog_isSound (h : f.catalog = .ok c) :
    f.IsLoadedAs c
    ∧ (∀ (c : Catalog) (ls : List Layer) token preferred l, c.find? token preferred = some l →
      (∃ l', (c.addAll ls).find? token preferred = some l')
      ∧ (preferred = none ∨ ':' ∈ token.toList →
        (c.addAll ls).find? token preferred = some l))
    ∧ ∀ (c : Catalog) (ls : List Layer) (g : GroupEntry) b, g.bounds = none →
      g.boundsIn c = .ok b → (c.addAll ls).missingMember? (g.toLayer b) = none := by
  refine ⟨isLoadedAs_of_catalog h, fun c ls token preferred l hl => ⟨?_, fun hfixed => ?_⟩,
    fun c ls g b hbounds hb => GroupEntry.missingMember?_toLayer hbounds hb ls⟩
  · exact Catalog.exists_find?_addAll hl ls
  · exact Catalog.find?_addAll hl hfixed ls

/-- A group of a group, both without a box, behind two layers of one name. -/
theorem catalog_isSound_nested : ∃ (f : CatalogFile) (c : Catalog),
    f.layers.map (fun l => (l.name, l.workspace)) = [("lakes", none), ("lakes", some "a")]
    ∧ f.groups.map (fun g => (g.name, g.members, g.bounds))
      = [("water", ["lakes"], none), ("all", ["water", "lakes"], none)]
    ∧ f.catalog = .ok c ∧ f.IsLoadedAs c
    ∧ c.entries.map Layer.bounds = [⟨0, 0, 1, 1⟩, ⟨2, 2, 3, 3⟩, ⟨2, 2, 3, 3⟩, ⟨0, 0, 3, 3⟩] := by
  let f : CatalogFile := {
    service := {}
    layers := [{ name := "lakes", bounds := ⟨0, 0, 1, 1⟩ },
      { name := "lakes", workspace := some "a", bounds := ⟨2, 2, 3, 3⟩ }]
    groups := [⟨"water", some "a", none, ["lakes"], none, true, none⟩,
      ⟨"all", none, none, ["water", "lakes"], none, true, none⟩] }
  have hentries : f.catalog.map (fun c => c.entries.map Layer.bounds)
      = .ok [⟨0, 0, 1, 1⟩, ⟨2, 2, 3, 3⟩, ⟨2, 2, 3, 3⟩, ⟨0, 0, 3, 3⟩] := by
    decide +kernel
  obtain ⟨c, hc, hbounds⟩ := map_eq_ok_iff.mp hentries
  exact ⟨f, c, rfl, rfl, hc, (catalog_isSound hc).1, hbounds⟩

end CatalogFile

end MapMarkup
