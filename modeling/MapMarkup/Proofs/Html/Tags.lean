import MapMarkup.Proofs.Text.Entity
import MapMarkup.Proofs.Xml.Processor

/-!
# A reader of HTML

The tags of a page, each with the text behind it, as a machine that takes one character at a time
(`step`). Its states are those in which a browser takes a page apart: in the name of a tag, before
and in an attribute, before, in and behind a quoted value, and in a text. It is stricter than a
browser, which knows what to do with everything: a page starts with a tag, names are plain, values
are in double quotation marks, no tag has two attributes of a name, and an `&` begins one of the
five entities. Styles and scripts are texts like any other, which makes no difference as long as no
`<` stands in them.

What is escaped moves the machine neither out of a text nor out of a value (`run_escape_text`,
`run_escape_value`), so where a tag begins and ends is decided by what is around it
(`tags_joinFields`).
-/

namespace MapMarkup.Html

/-! ### Tags -/

/-- A tag, with a slash in front of the name of an end tag and an empty value for an attribute
without one. -/
structure Tag where
  name : String
  attributes : List (String × String)
deriving DecidableEq

def Tag.shape (tag : Tag) : String × List String :=
  (tag.name, tag.attributes.map Prod.fst)

/-- A start tag, an end tag without attributes, or the tag that tells the type of a page, whose
attributes have plain names, each once. -/
def isPlainShape (shape : String × List String) : Bool :=
  (match shape.1.toList with
    | '/' :: name => Xml.isPlainName (String.ofList name) && shape.2.isEmpty
    | '!' :: name => String.ofList name = "DOCTYPE"
    | _ => Xml.isPlainName shape.1)
  && shape.2.all Xml.isPlainName && shape.2.Nodup

structure RawTag where
  name : List Char
  attributes : List (List Char × List Char)

def RawTag.add (tag : RawTag) (name value : List Char) : RawTag :=
  { tag with attributes := tag.attributes ++ [(name, value)] }

def readAttribute (a : List Char × List Char) : Option (String × String) :=
  (Text.unescapeChars a.2).map fun value => (String.ofList a.1, String.ofList value)

def readTag (raw : RawTag) (content : List Char) : Option (Tag × String) := do
  let attributes ← raw.attributes.mapM readAttribute
  let content ← Text.unescapeChars content
  let tag : Tag := ⟨String.ofList raw.name, attributes⟩
  if isPlainShape tag.shape then some (tag, String.ofList content) else none

/-! ### The machine -/

/-- What is being read. -/
inductive Mode where
  | start
  | name (name : List Char)
  | inTag (tag : RawTag)
  | attributeName (tag : RawTag) (name : List Char)
  | beforeValue (tag : RawTag) (name : List Char)
  | value (tag : RawTag) (name value : List Char)
  | afterValue (tag : RawTag)
  | text (tag : RawTag) (content : List Char)

structure State where
  mode : Mode
  /-- The tags that have been read, each with the text behind it. -/
  done : List (Tag × String)

def step (s : State) (c : Char) : Option State :=
  match s.mode with
  | .start => if c = '<' then some { s with mode := .name [] } else none
  | .name name =>
    if c = '>' then some { s with mode := .text ⟨name, []⟩ [] }
    else if Xml.isSpace c then some { s with mode := .inTag ⟨name, []⟩ }
    else some { s with mode := .name (name ++ [c]) }
  | .inTag tag =>
    if c = '>' then some { s with mode := .text tag [] }
    else if Xml.isSpace c then some s
    else some { s with mode := .attributeName tag [c] }
  | .attributeName tag name =>
    if c = '>' then some { s with mode := .text (tag.add name []) [] }
    else if c = '=' then some { s with mode := .beforeValue tag name }
    else if Xml.isSpace c then some { s with mode := .inTag (tag.add name []) }
    else some { s with mode := .attributeName tag (name ++ [c]) }
  | .beforeValue tag name => if c = '"' then some { s with mode := .value tag name [] } else none
  | .value tag name value =>
    if c = '"' then some { s with mode := .afterValue (tag.add name value) }
    else some { s with mode := .value tag name (value ++ [c]) }
  | .afterValue tag =>
    if c = '>' then some { s with mode := .text tag [] }
    else if Xml.isSpace c then some { s with mode := .inTag tag }
    else none
  | .text tag content =>
    if c = '<' then (readTag tag content).map fun p => ⟨.name [], s.done ++ [p]⟩
    else some { s with mode := .text tag (content ++ [c]) }

def run (cs : List Char) (s : State) : Option State :=
  cs.foldlM step s

def finish (s : State) : Option (List (Tag × String)) :=
  match s.mode with
  | .text tag content => (readTag tag content).map fun p => s.done ++ [p]
  | _ => none

/-- The tags of a page, each with the text behind it. -/
def tags (page : String) : Option (List (Tag × String)) :=
  (run page.toList ⟨.start, []⟩).bind finish

/-! ### Runs -/

theorem run_cons {s t : State} {c : Char} (h : step s c = some t) (cs : List Char) :
    run (c :: cs) s = run cs t := by
  rw [run, List.foldlM_cons, h]
  rfl

theorem run_append {s t : State} {xs : List Char} (h : run xs s = some t) (ys : List Char) :
    run (xs ++ ys) s = run ys t := by
  rw [run] at h
  rw [run, List.foldlM_append, h]
  rfl

section

variable {tag : RawTag} {name content cs : List Char} {done : List (Tag × String)}

private theorem run_text (h : '<' ∉ cs) :
    run cs ⟨.text tag content, done⟩ = some ⟨.text tag (content ++ cs), done⟩ := by
  induction cs generalizing content with
  | nil =>
      rw [List.append_nil]
      rfl
  | cons c cs ih =>
      rw [List.mem_cons, not_or] at h
      have hstep : step ⟨.text tag content, done⟩ c = some ⟨.text tag (content ++ [c]), done⟩ :=
        if_neg (Ne.symm h.1)
      rw [run_cons hstep, ih h.2, List.append_assoc, List.singleton_append]

private theorem run_value (h : '"' ∉ cs) :
    run cs ⟨.value tag name content, done⟩ = some ⟨.value tag name (content ++ cs), done⟩ := by
  induction cs generalizing content with
  | nil =>
      rw [List.append_nil]
      rfl
  | cons c cs ih =>
      rw [List.mem_cons, not_or] at h
      have hstep : step ⟨.value tag name content, done⟩ c
          = some ⟨.value tag name (content ++ [c]), done⟩ := if_neg (Ne.symm h.1)
      rw [run_cons hstep, ih h.2, List.append_assoc, List.singleton_append]

theorem run_escape_text (s : String) : run (Text.escape s).toList ⟨.text tag [], done⟩
    = some ⟨.text tag (Text.escapeChars s.toList), done⟩ := by
  rw [Text.escape, String.toList_ofList]
  exact run_text (Text.notMem_escapeChars (by decide) (by decide) _)

theorem run_escape_value (s : String) : run (Text.escape s).toList ⟨.value tag name [], done⟩
    = some ⟨.value tag name (Text.escapeChars s.toList), done⟩ := by
  rw [Text.escape, String.toList_ofList]
  exact run_value (Text.notMem_escapeChars (by decide) (by decide) _)

end

/-! ### Tags as they are written -/

def Tag.written (tag : Tag) : RawTag :=
  ⟨tag.name.toList, tag.attributes.map fun a => (a.1.toList, Text.escapeChars a.2.toList)⟩

private theorem mapM_readAttribute (attributes : List (String × String)) :
    (attributes.map fun a => (a.1.toList, Text.escapeChars a.2.toList)).mapM readAttribute
      = some attributes := by
  induction attributes with
  | nil => rfl
  | cons a attributes ih =>
      have ha : readAttribute (a.1.toList, Text.escapeChars a.2.toList) = some a := by
        unfold readAttribute
        dsimp only
        rw [String.ofList_toList, Text.unescapeChars_escapeChars, Option.map_some,
          String.ofList_toList]
      rw [List.map_cons, List.mapM_cons, ha, ih]
      rfl

private theorem readTag_written {tag : Tag} (h : isPlainShape tag.shape = true) (content : String) :
    readTag tag.written (Text.escapeChars content.toList) = some (tag, content) := by
  have hattributes : tag.written.attributes.mapM readAttribute = some tag.attributes :=
    mapM_readAttribute tag.attributes
  have hname : String.ofList tag.written.name = tag.name := String.ofList_toList
  unfold readTag
  rw [hattributes, Text.unescapeChars_escapeChars, hname]
  refine (if_pos h).trans ?_
  rw [String.ofList_toList]

/-! ### Pages -/

/-- A state with tags that have been read before. -/
def State.behind (s : State) (before : List (Tag × String)) : State :=
  { s with done := before ++ s.done }

/-- What has been read before has no part in what is read. -/
theorem step_behind (s : State) (before : List (Tag × String)) (c : Char) :
    step (s.behind before) c = (step s c).map fun t => t.behind before := by
  obtain ⟨mode, done⟩ := s
  cases mode with
  | text tag content =>
      simp only [step, State.behind]
      split
      · rw [Option.map_map]
        simp only [Function.comp_def, List.append_assoc]
      · rfl
  | start | beforeValue tag name | value tag name value =>
      simp only [step, State.behind]
      split <;> rfl
  | name name | inTag tag | afterValue tag =>
      simp only [step, State.behind]
      split
      · rfl
      · split <;> rfl
  | attributeName tag name =>
      simp only [step, State.behind]
      split
      · rfl
      · split
        · rfl
        · split <;> rfl

private theorem run_behind (cs : List Char) (s : State) (before : List (Tag × String)) :
    run cs (s.behind before) = (run cs s).map fun t => t.behind before := by
  induction cs generalizing s with
  | nil => rfl
  | cons c cs ih =>
      have hstep := step_behind s before c
      cases h : step s c with
      | none =>
          rw [h, Option.map_none] at hstep
          rw [run, run, List.foldlM_cons, List.foldlM_cons, h, hstep]
          rfl
      | some t =>
          rw [h, Option.map_some] at hstep
          rw [run_cons h, run_cons hstep, ih]

/-- What follows a bracket, read as a tag and the text behind it. -/
def readField (field : List Char) : Option (Tag × String) :=
  match run field ⟨.name [], []⟩ with
  | some ⟨.text tag content, []⟩ => readTag tag content
  | _ => none

theorem readField_of_run {field : List Char} {tag : Tag} {content : String}
    (hrun : run field ⟨.name [], []⟩
      = some ⟨.text tag.written (Text.escapeChars content.toList), []⟩)
    (hshape : isPlainShape tag.shape = true) : readField field = some (tag, content) := by
  rw [readField, hrun]
  exact readTag_written hshape content

private theorem exists_run_of_readField {field : List Char} {p : Tag × String}
    (h : readField field = some p) : ∃ tag content, readTag tag content = some p
      ∧ ∀ done, run field ⟨.name [], done⟩ = some ⟨.text tag content, done⟩ := by
  unfold readField at h
  split at h
  case h_1 tag content hrun =>
      refine ⟨tag, content, h, fun done => ?_⟩
      have hbehind := run_behind field ⟨.name [], []⟩ done
      rw [hrun, Option.map_some] at hbehind
      simpa only [State.behind, List.append_nil] using hbehind
  case h_2 => cases h

private theorem run_joinFields {fields : List (List Char)} {ps : List (Tag × String)}
    (h : fields.map readField = ps.map some) (hne : fields ≠ []) (done : List (Tag × String)) :
    (run (Text.joinFields '<' fields) ⟨.name [], done⟩).bind finish = some (done ++ ps) := by
  induction fields generalizing ps done with
  | nil => exact absurd rfl hne
  | cons field fields ih =>
      obtain ⟨p, ps, rfl, hp, hps⟩ := List.map_eq_cons_iff.mp h.symm
      obtain ⟨tag, content, htag, hrun⟩ := exists_run_of_readField hp.symm
      cases fields with
      | nil =>
          have hfinish : finish ⟨.text tag content, done⟩ = some (done ++ [p]) := by
            change (readTag tag content).map _ = _
            rw [htag, Option.map_some]
          rw [Text.joinFields, hrun, Option.bind_some, hfinish, List.map_eq_nil_iff.mp hps]
      | cons next fields =>
          have hstep : step ⟨.text tag content, done⟩ '<' = some ⟨.name [], done ++ [p]⟩ := by
            change (readTag tag content).map _ = _
            rw [htag, Option.map_some]
          rw [Text.joinFields, run_append (hrun done), run_cons hstep,
            ih hps.symm (List.cons_ne_nil _ _), List.append_assoc, List.singleton_append]
          exact List.cons_ne_nil _ _

/-- The tags of a page that is put together from tags are those tags. -/
theorem tags_joinFields {fields : List (List Char)} {ps : List (Tag × String)} {page : String}
    (h : fields.map readField = ps.map some) (hne : fields ≠ [])
    (hpage : page.toList = '<' :: Text.joinFields '<' fields) : tags page = some ps := by
  have hstart : step ⟨.start, []⟩ '<' = some ⟨.name [], []⟩ := rfl
  rw [tags, hpage, run_cons hstart, run_joinFields h hne, List.nil_append]

end MapMarkup.Html
