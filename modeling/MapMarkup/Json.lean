import MapMarkup.Decimal.Layout
import MapMarkup.Text.Blank
import MapMarkup.Text.Percent

/-!
# JSON

JSON values and their text, in a compact form without any blanks and in an indented form with every
element and member on a line of its own. Members keep the order they are given in. A number that
JSON cannot hold is written as null.
-/

namespace MapMarkup

inductive Json where
  | null
  | bool (b : Bool)
  | number (x : Float)
  | string (s : String)
  | array (elements : List Json)
  | object (members : List (String × Json))
deriving Repr

namespace Json

/-- A character in a JSON string. Control characters are escaped, by a letter where there is one. -/
def stringChar (c : Char) : List Char :=
  if c = '"' then ['\\', '"']
  else if c = '\\' then ['\\', '\\']
  else if c = '\n' then ['\\', 'n']
  else if c = '\r' then ['\\', 'r']
  else if c = '\t' then ['\\', 't']
  else if c.toNat = 8 then ['\\', 'b']
  else if c.toNat = 12 then ['\\', 'f']
  else if c.toNat < 32 then
    ['\\', 'u', '0', '0', (Text.hexDigit (c.toNat / 16)).toLower,
      (Text.hexDigit (c.toNat % 16)).toLower]
  else [c]

def stringChars (s : String) : List Char :=
  '"' :: s.toList.flatMap stringChar ++ ['"']

/-- A number, or null for one that JSON cannot hold. -/
def numberChars (x : Float) : List Char :=
  ((Decimal.jsonNumber? x).getD "null").toList

mutual

def compactChars : Json → List Char
  | .null => "null".toList
  | .bool b => (if b then "true" else "false").toList
  | .number x => numberChars x
  | .string s => stringChars s
  | .array [] => ['[', ']']
  | .array (e :: es) => '[' :: compactChars e ++ compactElements es ++ [']']
  | .object [] => ['\x7b', '\x7d']
  | .object ((k, v) :: ms) =>
    '\x7b' :: stringChars k ++ ':' :: compactChars v ++ compactMembers ms ++ ['\x7d']

/-- The elements of an array after the first, each with a comma before it. -/
def compactElements : List Json → List Char
  | [] => []
  | e :: es => ',' :: compactChars e ++ compactElements es

/-- The members of an object after the first, each with a comma before it. -/
def compactMembers : List (String × Json) → List Char
  | [] => []
  | (k, v) :: ms => ',' :: stringChars k ++ ':' :: compactChars v ++ compactMembers ms

end

mutual

/-- A value with its elements and members on lines of their own; `depth` is that of the line it
starts on. -/
def indentedChars (depth : Nat) : Json → List Char
  | .null => "null".toList
  | .bool b => (if b then "true" else "false").toList
  | .number x => numberChars x
  | .string s => stringChars s
  | .array [] => ['[', ']']
  | .array (e :: es) =>
    '[' :: Text.newLine (depth + 1) ++ indentedChars (depth + 1) e
      ++ indentedElements (depth + 1) es ++ Text.newLine depth ++ [']']
  | .object [] => ['\x7b', '\x7d']
  | .object ((k, v) :: ms) =>
    '\x7b' :: Text.newLine (depth + 1) ++ stringChars k ++ ':' :: ' ' :: indentedChars (depth + 1) v
      ++ indentedMembers (depth + 1) ms ++ Text.newLine depth ++ ['\x7d']

/-- The elements of an array after the first, at their own depth. -/
def indentedElements (depth : Nat) : List Json → List Char
  | [] => []
  | e :: es => ',' :: Text.newLine depth ++ indentedChars depth e ++ indentedElements depth es

/-- The members of an object after the first, at their own depth. -/
def indentedMembers (depth : Nat) : List (String × Json) → List Char
  | [] => []
  | (k, v) :: ms =>
    ',' :: Text.newLine depth ++ stringChars k ++ ':' :: ' ' :: indentedChars depth v
      ++ indentedMembers depth ms

end

def compact (j : Json) : String := String.ofList j.compactChars

def indented (j : Json) : String := String.ofList (j.indentedChars 0)

end Json

end MapMarkup
