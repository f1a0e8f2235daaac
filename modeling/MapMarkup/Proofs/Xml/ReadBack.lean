import MapMarkup.Proofs.Text.Entity
import MapMarkup.Proofs.Xml.Reader

/-!
# Elements read back

The text of an element, read as XML, is the element: `read_textOf`. Values and texts hold neither a
quotation mark nor a bracket once they are escaped, so nothing in them can end an attribute or begin
a tag; and the line ends and the indentation stand between elements only, where they mean nothing.

What is read has to be readable: names are names, no element has two attributes of one name, and an
element holds text exactly when the reader is told so (`Element.IsProper`).
-/

namespace MapMarkup.Xml

/-! ### Names and values -/

def IsName (name : String) : Prop :=
  name.toList ≠ [] ∧ name.toList.all isNameChar = true

instance (name : String) : Decidable (IsName name) :=
  inferInstanceAs (Decidable (_ ∧ _))

theorem IsName.forall_isNameChar {name : String} (h : IsName name) :
    ∀ c ∈ name.toList, isNameChar c = true :=
  List.all_eq_true.mp h.2

theorem IsName.exists_cons {name : String} (h : IsName name) :
    ∃ c cs, name.toList = c :: cs ∧ isNameChar c = true := by
  cases hname : name.toList with
  | nil => exact absurd hname h.1
  | cons c cs => exact ⟨c, cs, rfl, h.forall_isNameChar c (hname ▸ List.mem_cons_self)⟩

theorem readName_append {name : String} (h : IsName name) {rest : List Char}
    (hrest : ∀ c ∈ rest.head?, isNameChar c = false) :
    readName (name.toList ++ rest) = some (name, rest) := by
  obtain ⟨htake, hdrop⟩ := Text.span_append rest h.forall_isNameChar hrest
  rw [readName, htake, hdrop, if_neg h.1, String.ofList_toList]

private theorem readValue_append (value : String) (rest : List Char) :
    readValue (Text.escapeChars value.toList ++ '"' :: rest) = some (value, rest) := by
  have hquote : '"' ∉ Text.escapeChars value.toList :=
    Text.notMem_escapeChars (by decide) (by decide) _
  have hbracket : '<' ∉ Text.escapeChars value.toList :=
    Text.notMem_escapeChars (by decide) (by decide) _
  unfold readValue
  rw [Text.splitFirst_append hquote]
  dsimp only
  rw [if_neg hbracket, Text.unescapeChars_escapeChars, Option.map_some, String.ofList_toList]

/-! ### Attributes -/

private theorem readAttribute_append {a : Attribute} (h : IsName a.1) (rest : List Char) :
    readAttribute (a.1.toList ++ '=' :: '"' :: (Text.escapeChars a.2.toList ++ '"' :: rest))
      = some (a, rest) := by
  have hequals : ∀ c ∈ ('=' :: '"' :: (Text.escapeChars a.2.toList ++ '"' :: rest)).head?,
      isNameChar c = false := by
    rintro c ⟨⟩
    decide
  unfold readAttribute
  rw [readName_append h hequals]
  change (readValue (Text.escapeChars a.2.toList ++ '"' :: rest)).map
    (fun p => ((a.1, p.1), p.2)) = _
  rw [readValue_append]
  rfl

private theorem isSpace_of_isNameChar {c : Char} (h : isNameChar c = true) : isSpace c = false := by
  unfold isNameChar at h
  rw [Bool.and_eq_true, Bool.not_eq_true'] at h
  exact h.1

private theorem atTagEnd_of_isNameChar {c : Char} (h : isNameChar c = true) (cs : List Char) :
    atTagEnd (c :: cs) = false := by
  unfold atTagEnd
  split
  case h_1 heq =>
    cases heq
    exact absurd h (by decide)
  case h_2 heq =>
    cases heq
    exact absurd h (by decide)
  case h_3 => rfl

private theorem readAttributes_append {attributes : List Attribute}
    (h : ∀ a ∈ attributes, IsName a.1) {rest : List Char} (hrest : atTagEnd rest = true) :
    readAttributes (attributes.flatMap attributeChars ++ rest) = some (attributes, rest) := by
  induction attributes with
  | nil =>
      have hspace : rest.dropWhile isSpace = rest := by
        apply Text.dropWhile_eq_self
        intro c hc
        unfold atTagEnd at hrest
        split at hrest
        · cases hc
          decide
        · cases hc
          decide
        · cases hrest
      rw [List.flatMap_nil, List.nil_append, readAttributes, hspace, if_pos hrest]
  | cons a attributes ih =>
      obtain ⟨c, cs, hname, hc⟩ := (h a List.mem_cons_self).exists_cons
      obtain ⟨tail, htail⟩ : ∃ tail, tail = a.1.toList ++ '=' :: '"' ::
          (Text.escapeChars a.2.toList ++ '"' :: (attributes.flatMap attributeChars ++ rest)) :=
        ⟨_, rfl⟩
      have hchars : (a :: attributes).flatMap attributeChars ++ rest = ' ' :: tail := by
        rw [htail, List.flatMap_cons, attributeChars]
        simp only [List.cons_append, List.append_assoc, List.nil_append]
      have hdrop : (' ' :: tail).dropWhile isSpace = tail := by
        rw [List.dropWhile_cons_of_pos (by decide)]
        apply Text.dropWhile_eq_self
        intro d hd
        rw [htail, hname] at hd
        cases hd
        exact isSpace_of_isNameChar hc
      have hend : atTagEnd tail = false := by
        rw [htail, hname]
        exact atTagEnd_of_isNameChar hc _
      have hread := readAttribute_append (h a List.mem_cons_self)
        (attributes.flatMap attributeChars ++ rest)
      rw [← htail] at hread
      rw [hchars, readAttributes, hdrop, hend, if_neg (by decide), if_neg (by simp)]
      split
      case h_1 a' rest' heq =>
        rw [hread] at heq
        cases heq
        rw [ih fun b hb => h b (List.mem_cons_of_mem _ hb)]
        rfl
      case h_2 heq =>
        rw [hread] at heq
        cases heq

/-! ### Tags -/

/-- A tag that can be read: names are names, and no attribute is there twice. -/
structure IsTag (name : String) (attributes : List Attribute) : Prop where
  name : IsName name
  names : ∀ a ∈ attributes, IsName a.1
  nodup : (attributes.map Prod.fst).Nodup

private theorem head?_attributes (attributes : List Attribute) {rest : List Char}
    (hrest : atTagEnd rest = true) :
    ∀ c ∈ (attributes.flatMap attributeChars ++ rest).head?, isNameChar c = false := by
  intro c hc
  cases attributes with
  | nil =>
      rw [List.flatMap_nil, List.nil_append] at hc
      unfold atTagEnd at hrest
      split at hrest
      · cases hc
        decide
      · cases hc
        decide
      · cases hrest
  | cons a attributes =>
      rw [List.flatMap_cons, attributeChars] at hc
      cases hc
      decide

section

variable {name : String} {attributes : List Attribute}

theorem readTag_tagChars (h : IsTag name attributes) {rest : List Char}
    (hrest : atTagEnd rest = true) :
    readTag (tagChars name attributes ++ rest) = finishTag name attributes rest := by
  have hname := readName_append h.name (head?_attributes attributes hrest)
  rw [tagChars, List.append_assoc]
  unfold readTag
  split
  case h_1 heq =>
    obtain ⟨c, cs, hcons, hc⟩ := h.name.exists_cons
    rw [hcons] at heq
    cases heq
    exact absurd hc (by decide)
  case h_2 =>
    unfold readStartTag
    rw [hname]
    dsimp only
    rw [readAttributes_append h.names hrest]
    dsimp only
    rw [if_pos h.nodup]

theorem readTag_endTag (h : IsName name) (rest : List Char) :
    readTag ('/' :: (name.toList ++ '>' :: rest)) = some (.close name, rest) := by
  have hbracket : ∀ c ∈ ('>' :: rest).head?, isNameChar c = false := by
    rintro c ⟨⟩
    decide
  change readEndTag (name.toList ++ '>' :: rest) = _
  unfold readEndTag
  rw [readName_append h hbracket]
  rfl

/-! ### Tokens -/

theorem tokens_tag {tail rest : List Char} {token : Token} (h : readTag tail = some (token, rest)) :
    tokens ('<' :: tail) = (tokens rest).map (token :: ·) := by
  rw [tokens, if_pos rfl]
  split
  case h_1 heq =>
    rw [h] at heq
    cases heq
    rfl
  case h_2 heq =>
    rw [h] at heq
    cases heq

theorem tokens_text {content : List Char} (hne : content ≠ []) (rest : List Char) :
    tokens (Text.escapeChars content ++ '<' :: rest)
      = (tokens ('<' :: rest)).map (.text (String.ofList content) :: ·) := by
  have hbracket : '<' ∉ Text.escapeChars content :=
    Text.notMem_escapeChars (by decide) (by decide) _
  obtain ⟨c, tail, hcons⟩ : ∃ c tail, Text.escapeChars content = c :: tail := by
    cases content with
    | nil => exact absurd rfl hne
    | cons d ds =>
        obtain ⟨c, tail, hd⟩ := List.exists_cons_of_ne_nil (Text.escapeChar_ne_nil d)
        exact ⟨c, tail ++ Text.escapeChars ds, by rw [Text.escapeChars_cons, hd]; rfl⟩
  have hplain : ∀ d ∈ c :: tail, decide (d ≠ '<') = true := by
    intro d hd
    rw [decide_eq_true_eq]
    rintro rfl
    exact hbracket (hcons ▸ hd)
  have hstop : ∀ d ∈ ('<' :: rest).head?, decide (d ≠ '<') = false := by
    rintro d ⟨⟩
    decide
  obtain ⟨htake, _⟩ := Text.span_append ('<' :: rest) hplain hstop
  obtain ⟨_, hdrop⟩ := Text.span_append ('<' :: rest)
    (fun d hd => hplain d (List.mem_cons_of_mem c hd)) hstop
  have hc : c ≠ '<' := of_decide_eq_true (hplain c List.mem_cons_self)
  have hunescape := Text.unescapeChars_escapeChars content
  rw [hcons] at hunescape ⊢
  rw [List.cons_append] at htake ⊢
  rw [tokens, if_neg hc, htake, hunescape, hdrop]

private theorem escapeChars_newLine (depth : Nat) :
    Text.escapeChars (Text.newLine depth) = Text.newLine depth := by
  have hspaces : ∀ n, Text.escapeChars (List.replicate n ' ') = List.replicate n ' ' := by
    intro n
    induction n with
    | zero => rfl
    | succ n ih =>
        rw [List.replicate_succ, Text.escapeChars_cons, ih]
        rfl
  rw [Text.newLine, Text.escapeChars_cons, hspaces]
  rfl

end

/-! ### States -/

section

variable {holdsText : String → Bool}

private theorem inText_add (s : State) (e : Element) :
    (s.add e).inText holdsText = s.inText holdsText := by
  obtain ⟨frames, roots⟩ := s
  cases frames <;> rfl

private theorem foldl_add (f : Frame) (fs : List Frame) (roots children : List Element) :
    children.foldl State.add ⟨f :: fs, roots⟩
      = ⟨{ f with children := children.reverse ++ f.children } :: fs, roots⟩ := by
  induction children generalizing f with
  | nil => rfl
  | cons e children ih =>
      rw [List.foldl_cons, State.add, ih]
      simp

private theorem readFrom_nil (s : State) : readFrom holdsText s [] = some s := by
  rw [readFrom, tokens]
  rfl

theorem readFrom_of_tokens {s : State} {cs rest : List Char} {token : Token}
    (h : tokens cs = (tokens rest).map (token :: ·)) :
    readFrom holdsText s cs = (step holdsText s token).bind fun s => readFrom holdsText s rest := by
  unfold readFrom
  rw [h]
  cases tokens rest with
  | none => cases step holdsText s token <;> rfl
  | some ts => rfl

theorem readFrom_newLine {s : State} (hs : s.inText holdsText = false) (depth : Nat)
    (rest : List Char) : readFrom holdsText s (Text.newLine depth ++ '<' :: rest)
      = readFrom holdsText s ('<' :: rest) := by
  have htokens := tokens_text (List.cons_ne_nil '\n' (List.replicate (2 * depth) ' ')) rest
  rw [← Text.newLine, escapeChars_newLine] at htokens
  have hspace : (String.ofList (Text.newLine depth)).toList.all isSpace = true := by
    rw [String.toList_ofList, Text.newLine, List.all_cons, List.all_replicate]
    split <;> decide
  have hstep : step holdsText s (.text (String.ofList (Text.newLine depth))) = some s := by
    obtain ⟨frames, roots⟩ := s
    cases frames with
    | nil => exact if_pos hspace
    | cons f fs =>
        have hholds : holdsText f.name = false := hs
        unfold step
        dsimp only
        rw [hholds, if_neg (by decide), if_pos hspace]
  rw [readFrom_of_tokens htokens, hstep]
  rfl

theorem readFrom_start {s : State} (hs : s.inText holdsText = false) {name : String}
    {attributes : List Attribute} (h : IsTag name attributes) (rest : List Char) :
    readFrom holdsText s ('<' :: (tagChars name attributes ++ '>' :: rest))
      = readFrom holdsText { s with frames := ⟨name, attributes, "", []⟩ :: s.frames } rest := by
  have htag : readTag (tagChars name attributes ++ '>' :: rest)
      = some (.start name attributes, rest) := readTag_tagChars h rfl
  rw [readFrom_of_tokens (tokens_tag htag), step, hs]
  rfl

private theorem readFrom_empty {s : State} (hs : s.inText holdsText = false) {name : String}
    {attributes : List Attribute} (h : IsTag name attributes) (rest : List Char) :
    readFrom holdsText s ('<' :: (tagChars name attributes ++ '/' :: '>' :: rest))
      = readFrom holdsText (s.add (.leaf name attributes)) rest := by
  have htag : readTag (tagChars name attributes ++ '/' :: '>' :: rest)
      = some (.empty name attributes, rest) := readTag_tagChars h rfl
  rw [readFrom_of_tokens (tokens_tag htag), step, hs]
  rfl

theorem endTag_append (name : String) (rest : List Char) :
    endTag name ++ rest = '<' :: '/' :: (name.toList ++ '>' :: rest) := by
  unfold endTag
  simp only [List.cons_append, List.append_assoc, List.nil_append]

theorem readFrom_close {f : Frame} (h : IsName f.name) (fs : List Frame) (roots : List Element)
    (rest : List Char) : readFrom holdsText ⟨f :: fs, roots⟩ (endTag f.name ++ rest)
      = readFrom holdsText (State.add ⟨fs, roots⟩ (f.element holdsText)) rest := by
  have hstep : step holdsText ⟨f :: fs, roots⟩ (.close f.name)
      = some (State.add ⟨fs, roots⟩ (f.element holdsText)) := if_pos rfl
  rw [endTag_append, readFrom_of_tokens (tokens_tag (readTag_endTag h rest)), hstep]
  rfl

private theorem readFrom_text {f : Frame} (hholds : holdsText f.name = true) (fs : List Frame)
    (roots : List Element) (content : String) (rest : List Char) :
    readFrom holdsText ⟨f :: fs, roots⟩ (Text.escapeChars content.toList ++ '<' :: rest)
      = readFrom holdsText ⟨{ f with content := f.content ++ content } :: fs, roots⟩
          ('<' :: rest) := by
  by_cases hempty : content.toList = []
  · have hcontent : content = "" := String.toList_injective hempty
    rw [hcontent, String.append_empty]
    rfl
  · have hstep : step holdsText ⟨f :: fs, roots⟩ (.text content)
        = some ⟨{ f with content := f.content ++ content } :: fs, roots⟩ := if_pos hholds
    rw [readFrom_of_tokens (tokens_text hempty rest), String.ofList_toList, hstep]
    rfl

/-! ### Elements -/

/-- An element that reads back: its tags can be read, and it holds text exactly when elements of its
name do. -/
inductive Element.IsProper (holdsText : String → Bool) : Element → Prop
  | leaf {name : String} {attributes : List Attribute} (htag : IsTag name attributes) :
      IsProper holdsText (.leaf name attributes)
  | text {name : String} {attributes : List Attribute} (htag : IsTag name attributes)
      (hholds : holdsText name = true) (content : String) :
      IsProper holdsText (.text name attributes content)
  | block {name : String} {attributes : List Attribute} (htag : IsTag name attributes)
      (hholds : holdsText name = false) {children : List Element}
      (h : ∀ e ∈ children, IsProper holdsText e) :
      IsProper holdsText (.block name attributes children)

private theorem readFrom_charsOfAll {children : List Element} {depth : Nat}
    (h : ∀ e ∈ children, ∀ s : State, s.inText holdsText = false → ∀ rest,
      readFrom holdsText s (e.chars depth ++ rest) = readFrom holdsText (s.add e) rest)
    {s : State} (hs : s.inText holdsText = false) (rest : List Char) :
    readFrom holdsText s (charsOfAll depth children ++ rest)
      = readFrom holdsText (children.foldl State.add s) rest := by
  induction children generalizing s with
  | nil => rfl
  | cons e children ih =>
      rw [charsOfAll, List.append_assoc, h e List.mem_cons_self s hs,
        ih (fun e' he' => h e' (List.mem_cons_of_mem _ he'))]
      · rfl
      · rw [inText_add, hs]

/-- An element is read where it stands. -/
theorem readFrom_element {e : Element} (h : e.IsProper holdsText) {s : State}
    (hs : s.inText holdsText = false) (depth : Nat) (rest : List Char) :
    readFrom holdsText s (e.chars depth ++ rest) = readFrom holdsText (s.add e) rest := by
  induction h generalizing s depth rest with
  | leaf htag =>
      simp only [Element.chars, List.append_assoc, List.cons_append, List.nil_append]
      rw [readFrom_newLine hs, readFrom_empty hs htag]
  | @text name attributes htag hholds content =>
      simp only [Element.chars, List.append_assoc, List.cons_append]
      rw [readFrom_newLine hs, readFrom_start hs htag, endTag_append, readFrom_text hholds,
        ← endTag_append]
      refine (readFrom_close (f := ⟨name, attributes, "" ++ content, []⟩) htag.name s.frames s.roots
        rest).trans ?_
      rw [Frame.element, if_pos hholds, String.empty_append]
  | @block name attributes htag hholds children _ ih =>
      have hopen :
          State.inText holdsText ⟨⟨name, attributes, "", []⟩ :: s.frames, s.roots⟩ = false :=
        hholds
      have hclosing : State.inText holdsText
          ⟨⟨name, attributes, "", children.reverse ++ []⟩ :: s.frames, s.roots⟩ = false := hholds
      simp only [Element.chars, List.append_assoc, List.cons_append]
      rw [readFrom_newLine hs, readFrom_start hs htag,
        readFrom_charsOfAll (fun e he s hs rest => ih e he hs (depth + 1) rest) hopen, foldl_add,
        endTag_append, readFrom_newLine hclosing, ← endTag_append]
      refine (readFrom_close (f := ⟨name, attributes, "", children.reverse ++ []⟩) htag.name
        s.frames s.roots rest).trans ?_
      rw [Frame.element, hholds, if_neg (by decide), List.append_nil, List.reverse_reverse]

theorem afterDeclaration_append (cs : List Char) : afterDeclaration (declaration ++ cs) = cs := by
  have hdeclaration : declaration
      = '<' :: '?' :: ("xml version=\"1.0\" encoding=\"UTF-8\"?".toList ++ ['>']) := by
    decide
  rw [hdeclaration, List.cons_append, List.cons_append, List.append_assoc, List.singleton_append,
    afterDeclaration, Text.splitFirst_append (by decide)]
  rfl

/-- The text of an element reads back as the element. -/
theorem read_textOf {e : Element} (h : e.IsProper holdsText) :
    read holdsText (textOf e) = some e := by
  have hafter : afterDeclaration (textOf e).toList = e.chars 0 := by
    rw [textOf, String.toList_ofList, afterDeclaration_append]
  have hread := readFrom_element (s := ⟨[], []⟩) h rfl 0 []
  rw [List.append_nil] at hread
  unfold read
  rw [hafter, hread, readFrom_nil]
  rfl

end

end MapMarkup.Xml
