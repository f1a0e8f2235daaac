/-!
# Entities

The five characters that markup gives a meaning to are written as entities, everything else as it
is; `unescape` reads the five entities back and nothing else.
-/

namespace MapMarkup.Text

def escapeChar (c : Char) : List Char :=
  match c with
  | '<' => ['&', 'l', 't', ';']
  | '>' => ['&', 'g', 't', ';']
  | '&' => ['&', 'a', 'm', 'p', ';']
  | '\'' => ['&', 'a', 'p', 'o', 's', ';']
  | '"' => ['&', 'q', 'u', 'o', 't', ';']
  | c => [c]

def escapeChars (cs : List Char) : List Char :=
  cs.flatMap escapeChar

def escape (s : String) : String :=
  String.ofList (escapeChars s.toList)

/-- Reads the five entities; any other `&` has no meaning. -/
def unescapeChars : List Char → Option (List Char)
  | [] => some []
  | '&' :: 'l' :: 't' :: ';' :: cs => (unescapeChars cs).map ('<' :: ·)
  | '&' :: 'g' :: 't' :: ';' :: cs => (unescapeChars cs).map ('>' :: ·)
  | '&' :: 'a' :: 'm' :: 'p' :: ';' :: cs => (unescapeChars cs).map ('&' :: ·)
  | '&' :: 'a' :: 'p' :: 'o' :: 's' :: ';' :: cs => (unescapeChars cs).map ('\'' :: ·)
  | '&' :: 'q' :: 'u' :: 'o' :: 't' :: ';' :: cs => (unescapeChars cs).map ('"' :: ·)
  | c :: cs => if c = '&' then none else (unescapeChars cs).map (c :: ·)

@[simp] theorem escapeChars_cons (c : Char) (cs : List Char) :
    escapeChars (c :: cs) = escapeChar c ++ escapeChars cs := rfl

theorem unescapeChars_escapeChars (cs : List Char) :
    unescapeChars (escapeChars cs) = some cs := by
  induction cs with
  | nil => rfl
  | cons c cs ih =>
    rw [escapeChars_cons]
    unfold escapeChar
    split <;> simp_all [unescapeChars]

end MapMarkup.Text
