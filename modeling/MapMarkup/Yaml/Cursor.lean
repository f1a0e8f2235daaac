/-!
# Reading YAML text

The characters that a YAML stream may hold, its line breaks, and a cursor that knows its line and
column. Carriage return, line feed, both together and the next-line character are one line break;
`unifyBreaks` writes all of them as a line feed. The line and the paragraph separator are breaks
that stay what they are.
-/

namespace MapMarkup.Yaml

/-- Why a text is no YAML, or not the YAML that was asked for. -/
inductive Fault where
  | badCharacter
  | badToken
  | badStructure
  | unknownHandle
  | unknownAlias
  | severalDocuments
  | wrongKind
  | missingField (name : String)
  | repeatedField (name : String)
  | tooManyAliases
deriving Repr, DecidableEq

def isAllowed (c : Char) : Bool :=
  let n := c.toNat
  n = 0x9 || n = 0xA || n = 0xD || (0x20 ≤ n && n ≤ 0x7E) || n = 0x85
    || (0xA0 ≤ n && n ≤ 0xD7FF) || (0xE000 ≤ n && n ≤ 0xFFFD) || 0x10000 ≤ n

def orderMark : Char := Char.ofNat 0xFEFF

def nextLineChar : Char := Char.ofNat 0x85

def lineSeparator : Char := Char.ofNat 0x2028

def paragraphSeparator : Char := Char.ofNat 0x2029

def unifyBreaks : List Char → List Char
  | '\r' :: '\n' :: cs => '\n' :: unifyBreaks cs
  | c :: cs => (if c = '\r' || c = nextLineChar then '\n' else c) :: unifyBreaks cs
  | [] => []

def isBreak (c : Char) : Bool :=
  c = '\n' || c = lineSeparator || c = paragraphSeparator

def isSpace (c : Char) : Bool :=
  c = ' ' || c = '\t'

def endsWord : List Char → Bool
  | [] => true
  | c :: _ => isSpace c || isBreak c

def endsLine : List Char → Bool
  | [] => true
  | c :: _ => isBreak c

/-- A character of names: a letter, a digit, `-` or `_`. -/
def isNameChar (c : Char) : Bool :=
  c.isAlphanum || c = '-' || c = '_'

structure Cursor where
  rest : List Char
  /-- Bytes before the place; each line break counts as one. -/
  index : Nat := 0
  line : Nat := 0
  column : Nat := 0

namespace Cursor

def peek? (c : Cursor) : Option Char := c.rest.head?

/-- The place `n` characters on in the same line. -/
def skip (c : Cursor) (n : Nat) : Cursor :=
  { c with
    rest := c.rest.drop n
    index := (c.rest.take n).foldl (fun i x => i + x.utf8Size) c.index
    column := c.column + n }

def skipBreak (c : Cursor) : Cursor :=
  { rest := c.rest.drop 1, index := c.index + 1, line := c.line + 1, column := 0 }

/-- The characters from here on that satisfy `p`, which no line break does, and the place after
them. -/
def span (c : Cursor) (p : Char → Bool) : List Char × Cursor :=
  let taken := c.rest.takeWhile p
  (taken, c.skip taken.length)

/-- The place after the characters that satisfy `p`, which no line break does. -/
def skipWhile (c : Cursor) (p : Char → Bool) : Cursor :=
  (c.span p).2

/-- The place after a comment, if one starts here. -/
def skipComment (c : Cursor) : Cursor :=
  if c.peek? = some '#' then c.skipWhile fun x => !isBreak x else c

/-- The place after the blanks, the comment and the line break that end a line. -/
def endLine (c : Cursor) : Except Fault Cursor :=
  let c := (c.skipWhile isSpace).skipComment
  match c.rest with
  | [] => .ok c
  | x :: _ => if isBreak x then .ok c.skipBreak else .error .badToken

/-- A row of three `mark`s stands at the start of a line and ends a word. -/
def atMark (c : Cursor) (mark : Char) : Bool :=
  c.column = 0 && c.rest.take 3 = [mark, mark, mark] && endsWord (c.rest.drop 3)

def atDocumentMark (c : Cursor) : Bool :=
  c.atMark '-' || c.atMark '.'

end Cursor

/-- The cursor at the start of a stream, in which every character must be allowed. -/
def Cursor.ofText (text : String) : Except Fault Cursor :=
  let cs := text.toList
  if cs.all isAllowed then .ok { rest := unifyBreaks cs } else .error .badCharacter

end MapMarkup.Yaml
