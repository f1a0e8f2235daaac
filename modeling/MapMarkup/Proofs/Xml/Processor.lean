import MapMarkup.Proofs.Xml.ReadBack

/-!
# What an XML processor passes on

`read` resolves entities and takes every other character as it stands. A processor of XML 1.0 does
not: it refuses a text that holds a character outside of the ones XML allows, it makes every line
end a line feed before it reads anything, and in values of attributes it makes all white space
spaces. `process` adds this to the reader, and it is strict about what comes first in a text, about
names, and about brackets that would end a section, so that what it reads is well-formed.

Escaping keeps markup out of values and texts (`tokens_text`) and commutes with all of this
(`lineEnds_tagChars`, `closesSection_tagChars`, `all_tagChars`), because line ends and white space
are not escaped: what is written as a carriage return is not passed on as one.
-/

namespace MapMarkup.Xml

/-! ### Characters -/

/-- A character that XML 1.0 allows in a text. -/
def isAllowed (c : Char) : Bool :=
  c = '\t' || c = '\n' || c = '\r' || (0x20 ≤ c.toNat && c.toNat ≤ 0xFFFD) || 0x10000 ≤ c.toNat

/-- A text with its line ends as a processor passes them on: each is one line feed. -/
def lineEnds : List Char → List Char
  | '\r' :: '\n' :: cs => '\n' :: lineEnds cs
  | '\r' :: cs => '\n' :: lineEnds cs
  | c :: cs => c :: lineEnds cs
  | [] => []

def passedText (text : String) : String :=
  String.ofList (lineEnds text.toList)

/-- A value of an attribute with spaces for its white space. -/
def spaced (value : String) : String :=
  String.ofList (value.toList.map fun c => if isSpace c then ' ' else c)

/-- Somewhere a `>` follows a `]`, as it does at the end of a section. -/
def closesSection : List Char → Bool
  | [] => false
  | c :: cs => (c = ']' && cs.head? = some '>') || closesSection cs

/-! ### Names -/

def isPlainChar (c : Char) : Bool :=
  c.isAlphanum || ['-', '_', '.'].contains c

/-- A name that every processor takes: ASCII letters, digits and three marks, a letter first. -/
def isPlainName (name : String) : Bool :=
  name.toList.head?.any Char.isAlpha && name.toList.all isPlainChar

theorem notMem_of_isPlainName {name : String} {c : Char} (h : isPlainName name = true)
    (hc : isPlainChar c = false) : c ∉ name.toList := by
  unfold isPlainName at h
  rw [Bool.and_eq_true, List.all_eq_true] at h
  intro hmem
  rw [h.2 c hmem] at hc
  cases hc

theorem isSpace_of_isPlainChar {c : Char} (h : isPlainChar c = true) : isSpace c = false := by
  have hne {d : Char} (hd : isPlainChar d = false) : c ≠ d := by
    rintro rfl
    rw [h] at hd
    cases hd
  unfold isSpace
  rw [decide_eq_false (hne (by decide)), decide_eq_false (hne (by decide)),
    decide_eq_false (hne (by decide)), decide_eq_false (hne (by decide))]
  rfl

/-! ### Processing -/

def Token.isPlain : Token → Bool
  | .start name attributes => isPlainName name && attributes.all fun a => isPlainName a.1
  | .empty name attributes => isPlainName name && attributes.all fun a => isPlainName a.1
  | .close name => isPlainName name
  | .text _ => true

def Token.spaced : Token → Token
  | .start name attributes => .start name (attributes.map fun a => (a.1, Xml.spaced a.2))
  | .empty name attributes => .empty name (attributes.map fun a => (a.1, Xml.spaced a.2))
  | .close name => .close name
  | .text content => .text content

section

variable (holdsText : String → Bool)

def assemble (ts : List Token) : Option Element :=
  match ts.foldlM (step holdsText) ⟨[], []⟩ with
  | some ⟨[], [e]⟩ => some e
  | _ => none

/-- The element that a processor makes of a text. -/
def process (text : String) : Option Element :=
  if text.toList.all isAllowed && declaration.isPrefixOf text.toList
      && !closesSection text.toList then
    ((tokens (lineEnds (text.toList.drop declaration.length))).filter fun ts =>
      ts.all Token.isPlain).bind fun ts => assemble holdsText (ts.map Token.spaced)
  else none

theorem read_eq (text : String) : read holdsText text
    = (tokens (afterDeclaration text.toList)).bind (assemble holdsText) := by
  unfold read readFrom assemble
  cases tokens (afterDeclaration text.toList) <;> rfl

end

/-! ### Line ends -/

section

variable {xs ys cs : List Char}

theorem lineEnds_cons {c : Char} (hc : c ≠ '\r') : lineEnds (c :: cs) = c :: lineEnds cs := by
  rw [lineEnds]
  · intro _ h
    cases h
    exact absurd rfl hc
  · intro h
    exact absurd h hc

private theorem lineEnds_return (h : ys.head? ≠ some '\n') :
    lineEnds ('\r' :: ys) = '\n' :: lineEnds ys := by
  rw [lineEnds]
  rintro _ rfl
  exact absurd rfl h

theorem lineEnds_append_of_notMem (h : '\r' ∉ xs) : lineEnds (xs ++ ys) = xs ++ lineEnds ys := by
  induction xs with
  | nil => rfl
  | cons c xs ih =>
      rw [List.mem_cons, not_or] at h
      rw [List.cons_append, lineEnds_cons (Ne.symm h.1), ih h.2, List.cons_append]

private theorem return_notMem_lineEnds (cs : List Char) : '\r' ∉ lineEnds cs := by
  fun_induction lineEnds cs with
  | case1 cs ih => simpa using ih
  | case2 cs _ ih => simpa using ih
  | case3 c cs _ hc ih =>
      rw [List.mem_cons, not_or]
      exact ⟨fun h => hc h.symm, ih⟩
  | case4 => simp

theorem lineEnds_eq_self_iff : lineEnds cs = cs ↔ '\r' ∉ cs := by
  constructor
  · intro h
    rw [← h]
    exact return_notMem_lineEnds cs
  · intro h
    have happend := @lineEnds_append_of_notMem cs [] h
    rwa [List.append_nil, lineEnds, List.append_nil] at happend

theorem passedText_eq_self_iff {text : String} : passedText text = text ↔ '\r' ∉ text.toList := by
  rw [← lineEnds_eq_self_iff, ← String.toList_inj, passedText, String.toList_ofList]

theorem passedText_ne_empty {text : String} (h : text ≠ "") : passedText text ≠ "" := by
  obtain ⟨c, cs, hcons⟩ := List.exists_cons_of_ne_nil (mt String.toList_eq_nil_iff.mp h)
  rw [passedText, hcons, Ne, ← String.toList_eq_nil_iff, String.toList_ofList]
  unfold lineEnds
  split <;> simp_all

/-- A value is passed on as it stands exactly when no other white space than spaces is in it. -/
theorem spaced_passedText_eq_self_iff {value : String} : spaced (passedText value) = value
    ↔ ∀ c ∈ value.toList, isSpace c = true → c = ' ' := by
  constructor
  · intro h c hc hspace
    rw [← h, spaced, String.toList_ofList] at hc
    obtain ⟨d, _, rfl⟩ := List.mem_map.mp hc
    by_cases hd : isSpace d = true
    · exact if_pos hd
    · rw [if_neg hd] at hspace
      exact absurd hspace hd
  · intro h
    have hreturn : '\r' ∉ value.toList := fun hmem => absurd (h _ hmem (by decide)) (by decide)
    have hmap : (value.toList.map fun c => if isSpace c then ' ' else c) = value.toList := by
      refine (List.map_congr_left ?_).trans (List.map_id _)
      intro c hc
      split
      case isTrue hspace => exact (h c hc hspace).symm
      case isFalse => rfl
    rw [passedText_eq_self_iff.mpr hreturn, spaced, hmap, String.ofList_toList]

private theorem head?_escapeChars_append {c : Char}
    (hc : ∀ d, (Text.escapeChar d).head? = some c → d = c) (h : cs.head? ≠ some c)
    (hys : ys.head? ≠ some c) :
    (Text.escapeChars cs ++ ys).head? ≠ some c := by
  cases cs with
  | nil => exact hys
  | cons d cs =>
      intro hhead
      obtain ⟨e, tail, he⟩ := List.exists_cons_of_ne_nil (Text.escapeChar_ne_nil d)
      apply h
      rw [hc d]
      · rfl
      · rw [Text.escapeChars_cons, he] at hhead
        rw [he]
        exact hhead

/-- Line ends are not escaped, so they are passed on from within what is escaped. -/
theorem lineEnds_escapeChars_append (hys : ys.head? ≠ some '\n') :
    lineEnds (Text.escapeChars cs ++ ys) = Text.escapeChars (lineEnds cs) ++ lineEnds ys := by
  have hfeed (d : Char) (h : (Text.escapeChar d).head? = some '\n') : d = '\n' := by
    unfold Text.escapeChar at h
    split at h <;> simp_all
  fun_induction lineEnds cs with
  | case1 cs ih =>
      change lineEnds ('\r' :: '\n' :: (Text.escapeChars cs ++ ys)) = _
      rw [lineEnds, ih]
      rfl
  | case2 cs hcs ih =>
      change lineEnds ('\r' :: (Text.escapeChars cs ++ ys)) = _
      rw [lineEnds_return, ih]
      · rfl
      · apply head?_escapeChars_append hfeed _ hys
        intro hhead
        obtain ⟨tail, rfl⟩ := List.head?_eq_some_iff.mp hhead
        exact hcs tail rfl
  | case3 c cs _ hc ih =>
      have hnot : '\r' ∉ Text.escapeChar c := by
        unfold Text.escapeChar
        split <;> simp_all [eq_comm]
      rw [Text.escapeChars_cons, Text.escapeChars_cons, List.append_assoc, List.append_assoc,
        lineEnds_append_of_notMem hnot, ih]
  | case4 => rfl

end

/-! ### Tags -/

section

variable {name : String} {attributes : List Attribute} {rest : List Char}

structure IsPlainTag (name : String) (attributes : List Attribute) : Prop where
  name : isPlainName name = true
  names : ∀ a ∈ attributes, isPlainName a.1 = true

/-- Attributes with their values as they are passed on before white space is looked at. -/
def passedAttributes (attributes : List Attribute) : List Attribute :=
  attributes.map fun a => (a.1, passedText a.2)

theorem attributeChars_append (a : Attribute) (rest : List Char) : attributeChars a ++ rest
    = (' ' :: a.1.toList ++ ['=', '"']) ++ (Text.escapeChars a.2.toList ++ '"' :: rest) := by
  unfold attributeChars
  simp only [List.cons_append, List.append_assoc, List.nil_append]

private theorem lineEnds_attributes (h : ∀ a ∈ attributes, isPlainName a.1 = true) :
    lineEnds (attributes.flatMap attributeChars ++ rest)
      = (passedAttributes attributes).flatMap attributeChars ++ lineEnds rest := by
  induction attributes with
  | nil => rfl
  | cons a attributes ih =>
      rw [List.forall_mem_cons] at h
      have hname : '\r' ∉ ' ' :: a.1.toList ++ ['=', '"'] := by
        simp [notMem_of_isPlainName h.1 (by decide : isPlainChar '\r' = false)]
      have hquote : ('"' :: (attributes.flatMap attributeChars ++ rest)).head? ≠ some '\n' := by
        simp
      have hpassed : passedAttributes (a :: attributes)
          = (a.1, passedText a.2) :: passedAttributes attributes := rfl
      rw [List.flatMap_cons, List.append_assoc, attributeChars_append,
        lineEnds_append_of_notMem hname, lineEnds_escapeChars_append hquote,
        lineEnds_cons (by decide), ih h.2, hpassed, List.flatMap_cons,
        List.append_assoc (attributeChars _), attributeChars_append, passedText,
        String.toList_ofList]

/-- The line ends in a tag are those in its values. -/
theorem lineEnds_tagChars (h : IsPlainTag name attributes) :
    lineEnds (tagChars name attributes ++ rest)
      = tagChars name (passedAttributes attributes) ++ lineEnds rest := by
  rw [tagChars, tagChars, List.append_assoc, List.append_assoc,
    lineEnds_append_of_notMem (notMem_of_isPlainName h.name (by decide)),
    lineEnds_attributes h.names]

/-! ### Characters and sections -/

theorem all_escapeChars (cs : List Char) :
    (Text.escapeChars cs).all isAllowed = cs.all isAllowed := by
  induction cs with
  | nil => rfl
  | cons c cs ih =>
      have hchar : (Text.escapeChar c).all isAllowed = isAllowed c := by
        unfold Text.escapeChar
        split <;> simp <;> decide
      rw [Text.escapeChars_cons, List.all_append, hchar, ih, List.all_cons]

theorem isAllowed_of_isPlainChar {c : Char} (h : isPlainChar c = true) : isAllowed c = true := by
  unfold isPlainChar at h
  unfold isAllowed
  simp only [Bool.or_eq_true, Char.isAlphanum, Char.isAlpha, Char.isUpper, Char.isLower,
    Char.isDigit, Bool.and_eq_true, decide_eq_true_eq, List.contains_eq_mem, List.mem_cons,
    List.not_mem_nil, or_false, UInt32.le_iff_toNat_le, ge_iff_le] at h ⊢
  change (((65 ≤ c.toNat ∧ c.toNat ≤ 90) ∨ (97 ≤ c.toNat ∧ c.toNat ≤ 122))
    ∨ (48 ≤ c.toNat ∧ c.toNat ≤ 57)) ∨ c = '-' ∨ c = '_' ∨ c = '.' at h
  have hmarks : ('-'.toNat = 45 ∧ '_'.toNat = 95) ∧ '.'.toNat = 46 := by decide
  obtain h | rfl | rfl | rfl := h <;> omega

theorem all_name (h : isPlainName name = true) : name.toList.all isAllowed = true := by
  unfold isPlainName at h
  rw [Bool.and_eq_true, List.all_eq_true] at h
  rw [List.all_eq_true]
  exact fun c hc => isAllowed_of_isPlainChar (h.2 c hc)

theorem all_tagChars (h : IsPlainTag name attributes) : (tagChars name attributes).all isAllowed
    = attributes.all fun a => a.2.toList.all isAllowed := by
  have hattribute (a : Attribute) (ha : isPlainName a.1 = true) :
      (attributeChars a).all isAllowed = a.2.toList.all isAllowed := by
    rw [← List.append_nil (attributeChars a), attributeChars_append, List.all_append,
      List.all_append, List.all_append, List.all_cons, all_name ha, all_escapeChars]
    simp [show isAllowed ' ' ∧ isAllowed '=' ∧ isAllowed '"' by decide]
  have hattributes : (attributes.flatMap attributeChars).all isAllowed
      = attributes.all fun a => a.2.toList.all isAllowed := by
    have hnames := h.names
    clear h
    induction attributes with
    | nil => rfl
    | cons a attributes ih =>
        rw [List.forall_mem_cons] at hnames
        rw [List.flatMap_cons, List.all_append, hattribute a hnames.1, ih hnames.2, List.all_cons]
  rw [tagChars, List.all_append, all_name h.name, hattributes, Bool.true_and]

theorem closesSection_append_of_notMem {xs : List Char} (h : ']' ∉ xs) :
    closesSection (xs ++ rest) = closesSection rest := by
  induction xs with
  | nil => rfl
  | cons c xs ih =>
      rw [List.mem_cons, not_or] at h
      rw [List.cons_append, closesSection, ih h.2]
      simp [Ne.symm h.1]

theorem closesSection_escapeChars_append {cs : List Char} (hrest : rest.head? ≠ some '>') :
    closesSection (Text.escapeChars cs ++ rest) = closesSection rest := by
  suffices ∀ xs : List Char, '>' ∉ xs → closesSection (xs ++ rest) = closesSection rest from
    this _ (Text.notMem_escapeChars (by decide) (by decide) cs)
  intro xs h
  induction xs with
  | nil => rfl
  | cons c xs ih =>
      rw [List.mem_cons, not_or] at h
      have hhead : (xs ++ rest).head? ≠ some '>' := by
        cases xs with
        | nil => exact hrest
        | cons d xs =>
            intro hd
            cases hd
            exact h.2 List.mem_cons_self
      rw [List.cons_append, closesSection, ih h.2, decide_eq_false hhead, Bool.and_false,
        Bool.false_or]

theorem closesSection_tagChars (h : IsPlainTag name attributes) :
    closesSection (tagChars name attributes ++ rest) = closesSection rest := by
  rw [tagChars, List.append_assoc,
    closesSection_append_of_notMem (notMem_of_isPlainName h.name (by decide))]
  have hnames := h.names
  clear h
  induction attributes with
  | nil => rfl
  | cons a attributes ih =>
      rw [List.forall_mem_cons] at hnames
      have hname : ']' ∉ ' ' :: a.1.toList ++ ['=', '"'] := by
        simp [notMem_of_isPlainName hnames.1 (by decide : isPlainChar ']' = false)]
      have hquote : ('"' :: (attributes.flatMap attributeChars ++ rest)).head? ≠ some '>' := by
        simp
      rw [List.flatMap_cons, List.append_assoc, attributeChars_append,
        closesSection_append_of_notMem hname, closesSection_escapeChars_append hquote,
        ← List.singleton_append, closesSection_append_of_notMem (by decide), ih hnames.2]

end

end MapMarkup.Xml
