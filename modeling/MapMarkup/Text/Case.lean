import MapMarkup.Text.CaseTable
import MapMarkup.Text.Ranges

/-!
# Upper and lower case

Case mapping of texts by the full mappings: one character may become several, and a capital sigma
is lowered to its final form at the end of a word. ASCII letters map among themselves, and
`sameLetters` compares two texts by ASCII case alone.
-/

namespace MapMarkup.Text

/-- What a character maps to under runs and sequences; a character in neither maps to itself. -/
def mapCase (sequences : List (Nat × List Nat)) (runs : List (Nat × Nat × Nat × Int))
    (c : Char) : List Char :=
  match sequences.lookup c.toNat with
  | some several => several.map Char.ofNat
  | none =>
    let inRun (r : Nat × Nat × Nat × Int) : Bool :=
      r.1 ≤ c.toNat && c.toNat ≤ r.2.1 && (c.toNat - r.1) % r.2.2.1 = 0
    match runs.find? inRun with
    | some r => [Char.ofNat ((c.toNat : Int) + r.2.2.2).toNat]
    | none => [c]

def upperChar (c : Char) : List Char :=
  mapCase upperSequences upperRuns c

def lowerChar (c : Char) : List Char :=
  mapCase lowerSequences lowerRuns c

/-- The nearest character that is not ignored for casing is a cased one. -/
def meetsCased (cs : List Char) : Bool :=
  match cs.dropWhile (inRanges caseIgnorableRanges) with
  | c :: _ => inRanges casedRanges c
  | [] => false

/-- The lower case of a text; `before` holds the characters already passed, the last one first. A
capital sigma is final when a letter stands before it in its word and none after. -/
def lowerFrom (before : List Char) : List Char → List Char
  | [] => []
  | c :: cs =>
    let lowered :=
      if c = 'Σ' then [if meetsCased before && !meetsCased cs then 'ς' else 'σ']
      else lowerChar c
    lowered ++ lowerFrom (c :: before) cs

def upperChars (cs : List Char) : List Char :=
  cs.flatMap upperChar

def lowerChars (cs : List Char) : List Char :=
  lowerFrom [] cs

def upper (s : String) : String :=
  String.ofList (upperChars s.toList)

def lower (s : String) : String :=
  String.ofList (lowerChars s.toList)

def sameLetters (s t : String) : Bool :=
  s.toList.map Char.toLower = t.toList.map Char.toLower

end MapMarkup.Text
