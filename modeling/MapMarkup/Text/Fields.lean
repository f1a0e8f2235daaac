/-!
# Fields of a separated text

Splitting a text at a separator character and putting the fields together again. A text without
the separator is one field, so splitting never gives an empty list, and joining the fields of a
text gives the text back (`joinFields_splitFields`).
-/

namespace MapMarkup.Text

/-- The fields between the occurrences of `sep`, empty ones included. -/
def splitFields (sep : Char) : List Char → List (List Char)
  | [] => [[]]
  | c :: cs =>
    if c = sep then [] :: splitFields sep cs
    else
      match splitFields sep cs with
      | [] => [[c]]
      | field :: fields => (c :: field) :: fields

/-- The fields one after the other with `sep` between neighbours. -/
def joinFields (sep : Char) : List (List Char) → List Char
  | [] => []
  | [field] => field
  | field :: fields => field ++ sep :: joinFields sep fields

/-- What stands before and after the first occurrence of `sep`, if there is one. -/
def splitFirst (sep : Char) : List Char → Option (List Char × List Char)
  | [] => none
  | c :: cs =>
    if c = sep then some ([], cs)
    else (splitFirst sep cs).map fun p => (c :: p.1, p.2)

def fields (sep : Char) (s : String) : List String :=
  (splitFields sep s.toList).map String.ofList

def join (sep : Char) (parts : List String) : String :=
  String.ofList (joinFields sep (parts.map String.toList))

def cut (sep : Char) (s : String) : Option (String × String) :=
  (splitFirst sep s.toList).map fun p => (String.ofList p.1, String.ofList p.2)

theorem splitFields_ne_nil (sep : Char) (cs : List Char) : splitFields sep cs ≠ [] := by
  cases cs with
  | nil => simp [splitFields]
  | cons c cs =>
    simp only [splitFields]
    split
    · simp
    · split <;> simp

theorem joinFields_splitFields (sep : Char) (cs : List Char) :
    joinFields sep (splitFields sep cs) = cs := by
  induction cs with
  | nil => rfl
  | cons c cs ih =>
    cases h : splitFields sep cs with
    | nil => exact absurd h (splitFields_ne_nil sep cs)
    | cons field rest =>
      rw [h] at ih
      by_cases hc : c = sep
      · simp [splitFields, hc, h, joinFields, ih]
      · simp only [splitFields, hc, if_false, h]
        cases rest with
        | nil => simp only [joinFields] at ih ⊢; rw [ih]
        | cons second rest => simp only [joinFields, List.cons_append] at ih ⊢; rw [ih]

@[simp] theorem toList_join (sep : Char) (parts : List String) :
    (join sep parts).toList = joinFields sep (parts.map String.toList) := by
  simp [join]

end MapMarkup.Text
