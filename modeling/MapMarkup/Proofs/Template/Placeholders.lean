import Mathlib
import MapMarkup.Proofs.Text.Fields
import MapMarkup.Template

/-!
# Placeholders in templates

A placeholder is a name between braces, and a name holds no brace itself. What a client will replace
in a template is therefore a matter of its text alone: `HasPlaceholder`. Templates are put together
from texts without braces and from placeholders, and such a text (`Woven`) has no other placeholders
than those it was put together from. In front of it may stand any text, even with braces that do not
match: the first brace of a woven text opens, so that none of its braces closes one in front of it
(`HasPlaceholder.of_append_woven`).
-/

namespace MapMarkup

def Braceless (cs : List Char) : Prop :=
  '{' ∉ cs ∧ '}' ∉ cs

instance (cs : List Char) : Decidable (Braceless cs) :=
  inferInstanceAs (Decidable (_ ∧ _))

/-- A placeholder of that name stands in the text. -/
def HasPlaceholder (cs : List Char) (name : String) : Prop :=
  Braceless name.toList ∧ (placeholder name).toList <:+: cs

instance (cs : List Char) (name : String) : Decidable (HasPlaceholder cs name) :=
  inferInstanceAs (Decidable (_ ∧ _))

theorem toList_placeholder (name : String) :
    (placeholder name).toList = '{' :: (name.toList ++ ['}']) := by
  unfold placeholder
  rw [String.toList_append, String.toList_append]
  rfl

theorem HasPlaceholder.mono {cs ds : List Char} {name : String} (h : HasPlaceholder cs name)
    (hwithin : cs <:+: ds) : HasPlaceholder ds name :=
  ⟨h.1, h.2.trans hwithin⟩

/-! ### Texts without braces -/

theorem Braceless.append {cs ds : List Char} (hcs : Braceless cs) (hds : Braceless ds) :
    Braceless (cs ++ ds) := by
  unfold Braceless at *
  rw [List.mem_append, List.mem_append, not_or, not_or]
  exact ⟨⟨hcs.1, hds.1⟩, hcs.2, hds.2⟩

theorem Braceless.of_subset {cs ds : List Char} (h : Braceless ds) (hsub : cs ⊆ ds) :
    Braceless cs :=
  ⟨fun hmem => h.1 (hsub hmem), fun hmem => h.2 (hsub hmem)⟩

theorem braceless_cons {c : Char} {cs : List Char} :
    Braceless (c :: cs) ↔ (c ≠ '{' ∧ c ≠ '}') ∧ Braceless cs := by
  unfold Braceless
  rw [List.mem_cons, List.mem_cons, not_or, not_or]
  constructor
  · rintro ⟨⟨hopen, hcs⟩, hclose, hcs'⟩
    exact ⟨⟨Ne.symm hopen, Ne.symm hclose⟩, hcs, hcs'⟩
  · rintro ⟨⟨hopen, hclose⟩, hcs, hcs'⟩
    exact ⟨⟨Ne.symm hopen, hcs⟩, Ne.symm hclose, hcs'⟩

theorem braceless_join {parts : List String} (h : ∀ part ∈ parts, Braceless part.toList) :
    Braceless (Text.join ',' parts).toList := by
  have hmem : ∀ c ∈ (Text.join ',' parts).toList, c ≠ '{' ∧ c ≠ '}' := by
    intro c hc
    rw [Text.toList_join] at hc
    rcases Text.mem_joinFields hc with rfl | ⟨part, hpart, hc⟩
    · decide
    · obtain ⟨s, hs, rfl⟩ := List.mem_map.mp hpart
      constructor
      · rintro rfl
        exact (h s hs).1 hc
      · rintro rfl
        exact (h s hs).2 hc
  exact ⟨fun hopen => (hmem _ hopen).1 rfl, fun hclose => (hmem _ hclose).2 rfl⟩

theorem HasPlaceholder.of_cons {c : Char} {cs : List Char} {name : String} (hc : c ≠ '{')
    (h : HasPlaceholder (c :: cs) name) : HasPlaceholder cs name := by
  refine ⟨h.1, (List.infix_cons_iff.mp h.2).resolve_left ?_⟩
  rw [toList_placeholder, List.cons_prefix_cons]
  exact fun heq => hc heq.1.symm

theorem HasPlaceholder.of_append {before cs : List Char} {name : String} (hbefore : '{' ∉ before)
    (h : HasPlaceholder (before ++ cs) name) : HasPlaceholder cs name := by
  induction before with
  | nil => exact h
  | cons c before ih =>
      rw [List.mem_cons, not_or] at hbefore
      exact ih hbefore.2 (h.of_cons (Ne.symm hbefore.1))

/-! ### Woven texts -/

/-- A text of characters that are no braces and of placeholders for some names. -/
inductive Woven (names : List String) : List Char → Prop
  | nil : Woven names []
  | char {c : Char} {cs : List Char} (hc : c ≠ '{' ∧ c ≠ '}') (h : Woven names cs) :
      Woven names (c :: cs)
  | slot {name : String} {cs : List Char} (hname : Braceless name.toList)
      (hmem : name ∈ names) (h : Woven names cs) : Woven names ((placeholder name).toList ++ cs)

namespace Woven

variable {names : List String} {cs ds : List Char}

theorem append (hcs : Woven names cs) (hds : Woven names ds) : Woven names (cs ++ ds) := by
  induction hcs with
  | nil => exact hds
  | char hc _ ih => exact .char hc ih
  | slot hname hmem _ ih =>
      rw [List.append_assoc]
      exact .slot hname hmem ih

theorem of_braceless (h : Braceless cs) : Woven names cs := by
  induction cs with
  | nil => exact .nil
  | cons c cs ih =>
      rw [braceless_cons] at h
      exact .char h.1 (ih h.2)

theorem of_placeholder {name : String} (hname : Braceless name.toList) (hmem : name ∈ names) :
    Woven names (placeholder name).toList := by
  rw [← List.append_nil (placeholder name).toList]
  exact .slot hname hmem .nil

theorem mono {names' : List String} (h : Woven names cs) (hsub : names ⊆ names') :
    Woven names' cs := by
  induction h with
  | nil => exact .nil
  | char hc _ ih => exact .char hc ih
  | slot hname hmem _ ih => exact .slot hname (hsub hmem) ih

theorem joinFields {sep : Char} (hsep : sep ≠ '{' ∧ sep ≠ '}') {parts : List (List Char)}
    (h : ∀ part ∈ parts, Woven names part) : Woven names (Text.joinFields sep parts) := by
  induction parts with
  | nil => exact .nil
  | cons part parts ih =>
      have hpart := h part List.mem_cons_self
      cases parts with
      | nil => exact hpart
      | cons next parts =>
          rw [Text.joinFields]
          · exact hpart.append (.char hsep (ih fun p hp => h p (List.mem_cons_of_mem _ hp)))
          · simp

private theorem not_prefix (h : Woven names cs) {before : List Char} (hbefore : Braceless before) :
    ¬ before ++ ['}'] <+: cs := by
  induction h generalizing before with
  | nil =>
      rw [List.prefix_nil]
      simp
  | char hc _ ih =>
      cases before with
      | nil =>
          rw [List.nil_append, List.cons_prefix_cons]
          exact fun heq => hc.2 heq.1.symm
      | cons b before =>
          rw [List.cons_append, List.cons_prefix_cons]
          exact fun heq => ih (braceless_cons.mp hbefore).2 heq.2
  | slot _ _ _ _ =>
      rw [toList_placeholder, List.cons_append]
      cases before with
      | nil =>
          rw [List.nil_append, List.cons_prefix_cons]
          exact fun heq => absurd heq.1 (by decide)
      | cons b before =>
          rw [List.cons_append, List.cons_prefix_cons]
          exact fun heq => (braceless_cons.mp hbefore).1.1 heq.1

end Woven

private theorem eq_of_prefix_close {name name' rest : List Char} (hname : Braceless name)
    (hname' : Braceless name') (h : name ++ ['}'] <+: name' ++ '}' :: rest) : name = name' := by
  induction name generalizing name' with
  | nil =>
      cases name' with
      | nil => rfl
      | cons c name' =>
          rw [List.nil_append, List.cons_append, List.cons_prefix_cons] at h
          exact absurd h.1.symm (braceless_cons.mp hname').1.2
  | cons c name ih =>
      cases name' with
      | nil =>
          rw [List.nil_append, List.cons_append, List.cons_prefix_cons] at h
          exact absurd h.1 (braceless_cons.mp hname).1.2
      | cons c' name' =>
          rw [List.cons_append, List.cons_append, List.cons_prefix_cons] at h
          rw [h.1, ih (braceless_cons.mp hname).2 (braceless_cons.mp hname').2 h.2]

/-- A woven text has no other placeholders than those it was woven from. -/
theorem HasPlaceholder.mem_of_woven {names : List String} {cs : List Char} {name : String}
    (h : HasPlaceholder cs name) (hwoven : Woven names cs) : name ∈ names := by
  induction hwoven with
  | nil =>
      have hnil := List.infix_nil.mp h.2
      rw [toList_placeholder] at hnil
      exact absurd hnil (List.cons_ne_nil _ _)
  | char hc _ ih => exact ih (h.of_cons hc.1)
  | @slot name' cs hname' hmem hcs ih =>
      rw [toList_placeholder, List.cons_append, List.append_assoc, List.singleton_append] at h
      rcases List.infix_cons_iff.mp h.2 with hstart | hwithin
      · rw [toList_placeholder, List.cons_prefix_cons] at hstart
        have heq := String.toList_injective (eq_of_prefix_close h.1 hname' hstart.2)
        exact heq ▸ hmem
      · have hrest : HasPlaceholder ('}' :: cs) name :=
          HasPlaceholder.of_append hname'.1 ⟨h.1, hwithin⟩
        exact ih (hrest.of_cons (by decide))

theorem HasPlaceholder.of_append_woven {names : List String} {front cs : List Char} {name : String}
    (h : HasPlaceholder (front ++ cs) name) (hwoven : Woven names cs) :
    HasPlaceholder front name ∨ name ∈ names := by
  induction front with
  | nil => exact .inr (h.mem_of_woven hwoven)
  | cons c front ih =>
      rw [List.cons_append] at h
      rcases List.infix_cons_iff.mp h.2 with hstart | hwithin
      · refine .inl ⟨h.1, List.IsPrefix.isInfix ?_⟩
        rw [toList_placeholder, List.cons_prefix_cons] at hstart ⊢
        refine ⟨hstart.1, ?_⟩
        rcases List.prefix_or_prefix_of_prefix hstart.2 (List.prefix_append front cs) with
          hshort | hlong
        · exact hshort
        · obtain ⟨rest, hrest⟩ := hlong
          rcases List.eq_nil_or_concat rest with rfl | ⟨inner, last, rfl⟩
          · rw [List.append_nil] at hrest
            rw [hrest]
          · rw [List.concat_eq_append, ← List.append_assoc] at hrest
            obtain ⟨hname, hlast⟩ := List.append_inj' hrest rfl
            have hinner : Braceless inner :=
              h.1.of_subset (hname ▸ List.subset_append_right front inner)
            have hclose := hstart.2
            rw [← hname, List.append_assoc, List.prefix_append_right_inj] at hclose
            exact absurd hclose (hwoven.not_prefix hinner)
      · rcases ih ⟨h.1, hwithin⟩ with hfront | hmem
        · exact .inl (hfront.mono (List.infix_cons (List.infix_refl _)))
        · exact .inr hmem

/-! ### Templates -/

namespace Template

variable {t : Template}

theorem toList_text (t : Template) :
    t.text.toList = t.endpoint.toList
      ++ '?' :: Text.joinFields '&' (t.params.map Template.parameter) :=
  String.toList_ofList

theorem woven_parameters {names : List String}
    (h : ∀ p ∈ t.params, Braceless p.1.toList ∧ Woven names p.2.toList) :
    Woven names ('?' :: Text.joinFields '&' (t.params.map Template.parameter)) := by
  refine .char (by decide) (.joinFields (by decide) ?_)
  intro part hpart
  obtain ⟨p, hp, rfl⟩ := List.mem_map.mp hpart
  exact (Woven.of_braceless (h p hp).1).append (.char (by decide) (h p hp).2)

private theorem infix_joinFields {sep : Char} {parts : List (List Char)} {part : List Char}
    (h : part ∈ parts) : part <:+: Text.joinFields sep parts := by
  induction parts with
  | nil => exact absurd h List.not_mem_nil
  | cons first parts ih =>
      cases parts with
      | nil =>
          rw [List.mem_singleton.mp h]
          exact List.infix_refl _
      | cons next parts =>
          rw [Text.joinFields]
          · rcases List.mem_cons.mp h with rfl | h
            · exact (List.prefix_append _ _).isInfix
            · exact (List.infix_cons (ih h)).trans (List.suffix_append _ _).isInfix
          · simp

theorem hasPlaceholder_of_mem {p : String × String} {name : String} (hp : p ∈ t.params)
    (h : HasPlaceholder p.2.toList name) : HasPlaceholder t.text.toList name := by
  have hvalue : p.2.toList <:+: parameter p :=
    (List.infix_cons (List.infix_refl _)).trans (List.suffix_append _ _).isInfix
  have hjoin : parameter p <:+: Text.joinFields '&' (t.params.map parameter) :=
    infix_joinFields (List.mem_map_of_mem hp)
  rw [toList_text]
  refine h.mono ((hvalue.trans hjoin).trans ?_)
  exact (List.infix_cons (List.infix_refl _)).trans (List.suffix_append _ _).isInfix

end Template

end MapMarkup
