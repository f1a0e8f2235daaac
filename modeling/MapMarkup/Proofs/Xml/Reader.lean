import Mathlib
import MapMarkup.Proofs.Text.Fields
import MapMarkup.Xml

/-!
# A reader of XML

XML read in two steps. `tokens` cuts a text into start tags, end tags, tags of empty elements and
the text between them; attributes are double-quoted, no element has two of a name, and the five
entities are resolved. `step` puts tokens together to elements with a stack of the elements that are
still open.

Space between elements means nothing, but space in an element that holds text belongs to the text,
so the reader has to be told which elements these are.
-/

namespace MapMarkup.Xml

/-! ### Tags -/

def isSpace (c : Char) : Bool :=
  c = ' ' || c = '\t' || c = '\n' || c = '\r'

def isNameChar (c : Char) : Bool :=
  !isSpace c && !(['<', '>', '/', '=', '"', '\'', '&', '?', '!'].contains c)

def readName (cs : List Char) : Option (String × List Char) :=
  if cs.takeWhile isNameChar = [] then none
  else some (String.ofList (cs.takeWhile isNameChar), cs.dropWhile isNameChar)

/-- A quoted value, after the quotation mark that opens it, and what follows it. -/
def readValue (cs : List Char) : Option (String × List Char) :=
  match Text.splitFirst '"' cs with
  | some (raw, rest) =>
    if '<' ∈ raw then none
    else (Text.unescapeChars raw).map fun value => (String.ofList value, rest)
  | none => none

def readAttribute (cs : List Char) : Option (Attribute × List Char) :=
  match readName cs with
  | some (name, '=' :: '"' :: rest) => (readValue rest).map fun p => ((name, p.1), p.2)
  | _ => none

def atTagEnd : List Char → Bool
  | '>' :: _ => true
  | '/' :: _ => true
  | _ => false

theorem length_readName {cs rest : List Char} {name : String}
    (h : readName cs = some (name, rest)) : rest.length ≤ cs.length := by
  unfold readName at h
  split at h
  · cases h
  · cases h
    exact (List.dropWhile_suffix _).length_le

theorem length_readValue {cs rest : List Char} {value : String}
    (h : readValue cs = some (value, rest)) : rest.length < cs.length := by
  unfold readValue at h
  split at h
  case h_1 raw rest' hsplit =>
    split at h
    · cases h
    · obtain ⟨value', _, heq⟩ := Option.map_eq_some_iff.mp h
      cases heq
      rw [Text.eq_append_of_splitFirst hsplit, List.length_append, List.length_cons]
      omega
  case h_2 => cases h

theorem length_readAttribute {cs rest : List Char} {a : Attribute}
    (h : readAttribute cs = some (a, rest)) : rest.length < cs.length := by
  unfold readAttribute at h
  split at h
  case h_1 name tail hname =>
    obtain ⟨⟨value, rest'⟩, hvalue, heq⟩ := Option.map_eq_some_iff.mp h
    cases heq
    have hle := length_readName hname
    have hlt := length_readValue hvalue
    rw [List.length_cons, List.length_cons] at hle
    dsimp only
    omega
  case h_2 => cases h

def readAttributes (cs : List Char) : Option (List Attribute × List Char) :=
  let tail := cs.dropWhile isSpace
  if atTagEnd tail then some ([], tail)
  else if tail.length = cs.length then none
  else
    match _h : readAttribute tail with
    | some (a, rest) => (readAttributes rest).map fun p => (a :: p.1, p.2)
    | none => none
termination_by cs.length
decreasing_by
  have hlt := length_readAttribute _h
  have hle : tail.length ≤ cs.length := (List.dropWhile_suffix isSpace).length_le
  omega

theorem length_readAttributes {cs rest : List Char} {attributes : List Attribute}
    (h : readAttributes cs = some (attributes, rest)) : rest.length ≤ cs.length := by
  have hsuffix (cs : List Char) : (cs.dropWhile isSpace).length ≤ cs.length :=
    (List.dropWhile_suffix _).length_le
  fun_induction readAttributes cs generalizing attributes with
  | case1 cs _ =>
      rw [Option.some.injEq, Prod.mk.injEq] at h
      rw [← h.2]
      exact hsuffix cs
  | case2 => cases h
  | case3 cs tail _ _ a rest' hattribute =>
      rename_i ih
      obtain ⟨⟨attributes', rest''⟩, hattributes, heq⟩ := Option.map_eq_some_iff.mp h
      cases heq
      have hlt := length_readAttribute hattribute
      have hle : tail.length ≤ cs.length := hsuffix cs
      have hih := ih hattributes
      exact hih.trans (hlt.le.trans hle)
  | case4 => cases h

/-- What an XML text is made of. -/
inductive Token where
  | start (name : String) (attributes : List Attribute)
  | empty (name : String) (attributes : List Attribute)
  | close (name : String)
  | text (content : String)

def finishTag (name : String) (attributes : List Attribute) :
    List Char → Option (Token × List Char)
  | '>' :: rest => some (.start name attributes, rest)
  | '/' :: '>' :: rest => some (.empty name attributes, rest)
  | _ => none

def readStartTag (cs : List Char) : Option (Token × List Char) :=
  match readName cs with
  | some (name, rest) =>
    match readAttributes rest with
    | some (attributes, rest) =>
      if (attributes.map Prod.fst).Nodup then finishTag name attributes rest else none
    | none => none
  | none => none

def readEndTag (cs : List Char) : Option (Token × List Char) :=
  match readName cs with
  | some (name, rest) =>
    match rest.dropWhile isSpace with
    | '>' :: rest => some (.close name, rest)
    | _ => none
  | none => none

/-- A tag, after the bracket that opens it, and what follows it. -/
def readTag : List Char → Option (Token × List Char)
  | '/' :: cs => readEndTag cs
  | cs => readStartTag cs

theorem length_finishTag {name : String} {attributes : List Attribute} {cs rest : List Char}
    {token : Token} (h : finishTag name attributes cs = some (token, rest)) :
    rest.length ≤ cs.length := by
  unfold finishTag at h
  split at h
  · cases h
    rw [List.length_cons]
    omega
  · cases h
    rw [List.length_cons, List.length_cons]
    omega
  · cases h

theorem length_readTag {cs rest : List Char} {token : Token}
    (h : readTag cs = some (token, rest)) : rest.length ≤ cs.length := by
  unfold readTag at h
  split at h
  case h_1 tail =>
    unfold readEndTag at h
    split at h
    case h_2 => cases h
    case h_1 name rest' hname =>
      split at h
      case h_2 => cases h
      case h_1 rest'' hspace =>
        cases h
        have hle := length_readName hname
        have hsuffix := (List.dropWhile_suffix (l := rest') isSpace).length_le
        rw [hspace, List.length_cons] at hsuffix
        rw [List.length_cons]
        omega
  case h_2 =>
    unfold readStartTag at h
    split at h
    case h_2 => cases h
    case h_1 name rest' hname =>
      split at h
      case h_2 => cases h
      case h_1 attributes rest'' hattributes =>
        split at h
        case isFalse => cases h
        case isTrue =>
          exact ((length_finishTag h).trans (length_readAttributes hattributes)).trans
            (length_readName hname)

def tokens (cs : List Char) : Option (List Token) :=
  match cs with
  | [] => some []
  | c :: tail =>
    if c = '<' then
      match _h : readTag tail with
      | some (token, rest) => (tokens rest).map (token :: ·)
      | none => none
    else
      match Text.unescapeChars ((c :: tail).takeWhile (· ≠ '<')) with
      | some content =>
        (tokens (tail.dropWhile (· ≠ '<'))).map (.text (String.ofList content) :: ·)
      | none => none
termination_by cs.length
decreasing_by
  · have hle := length_readTag _h
    rw [List.length_cons]
    omega
  · have hle := (List.dropWhile_suffix (l := tail) (· ≠ '<')).length_le
    rw [List.length_cons]
    omega

/-! ### Elements -/

structure Frame where
  name : String
  attributes : List Attribute
  content : String
  /-- The elements in it so far, the last one first. -/
  children : List Element

/-- Where reading stands. -/
structure State where
  /-- The elements that are open, the innermost one first. -/
  frames : List Frame
  /-- The elements at the root so far, the last one first. -/
  roots : List Element

def State.add (s : State) (e : Element) : State :=
  match s.frames with
  | [] => { s with roots := e :: s.roots }
  | f :: fs => { s with frames := { f with children := e :: f.children } :: fs }

section

variable (holdsText : String → Bool)

def State.inText (s : State) : Bool :=
  match s.frames with
  | [] => false
  | f :: _ => holdsText f.name

def Frame.element (f : Frame) : Element :=
  if holdsText f.name then .text f.name f.attributes f.content
  else .block f.name f.attributes f.children.reverse

/-- One more token; text that is not space stands in elements that hold text alone. -/
def step (s : State) : Token → Option State
  | .start name attributes =>
    if s.inText holdsText then none
    else some { s with frames := ⟨name, attributes, "", []⟩ :: s.frames }
  | .empty name attributes =>
    if s.inText holdsText then none else some (s.add (.leaf name attributes))
  | .close name =>
    match s.frames with
    | [] => none
    | f :: fs =>
      if f.name = name then some (State.add { s with frames := fs } (f.element holdsText)) else none
  | .text content =>
    match s.frames with
    | [] => if content.toList.all isSpace then some s else none
    | f :: fs =>
      if holdsText f.name then
        some { s with frames := { f with content := f.content ++ content } :: fs }
      else if content.toList.all isSpace then some s
      else none

def readFrom (s : State) (cs : List Char) : Option State :=
  (tokens cs).bind fun ts => ts.foldlM (step holdsText) s

/-- What follows the declaration that a text may start with. -/
def afterDeclaration : List Char → List Char
  | '<' :: '?' :: cs => ((Text.splitFirst '>' cs).map Prod.snd).getD []
  | cs => cs

def read (text : String) : Option Element :=
  match readFrom holdsText ⟨[], []⟩ (afterDeclaration text.toList) with
  | some ⟨[], [e]⟩ => some e
  | _ => none

end

end MapMarkup.Xml
