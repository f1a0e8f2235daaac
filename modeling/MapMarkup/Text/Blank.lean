import MapMarkup.Text.Fields
import MapMarkup.Text.Ranges

/-!
# Blank characters

A character is blank when it has the Unicode property `White_Space`: the ten ranges below, 25
characters in all. Trimming drops blanks from both ends of a text and from nowhere else; the tokens
of a list are trimmed.
-/

namespace MapMarkup.Text

/-- The ranges of the property `White_Space`, ascending, both ends included. -/
def blankRanges : List (Nat × Nat) :=
  [(0x9, 0xD), (0x20, 0x20), (0x85, 0x85), (0xA0, 0xA0), (0x1680, 0x1680), (0x2000, 0x200A),
    (0x2028, 0x2029), (0x202F, 0x202F), (0x205F, 0x205F), (0x3000, 0x3000)]

def isBlank (c : Char) : Bool :=
  inRanges blankRanges c

def trimStart (cs : List Char) : List Char :=
  cs.dropWhile isBlank

def trimEnd (cs : List Char) : List Char :=
  (cs.reverse.dropWhile isBlank).reverse

def trimChars (cs : List Char) : List Char :=
  trimEnd (trimStart cs)

def trim (s : String) : String :=
  String.ofList (trimChars s.toList)

@[simp] theorem toList_trim (s : String) : (trim s).toList = trimChars s.toList := by
  simp [trim]

/-- A line break, and two blanks for each level of depth. -/
def newLine (depth : Nat) : List Char :=
  '\n' :: List.replicate (2 * depth) ' '

/-- The tokens of a comma-separated list, without blanks around them and without empty ones. -/
def tokens (list : String) : List String :=
  ((fields ',' list).map trim).filter (· ≠ "")

def allBlank (s : String) : Bool :=
  s.toList.all isBlank

end MapMarkup.Text
