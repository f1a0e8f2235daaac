import MapMarkup.Text.Blank
import MapMarkup.Text.Entity

/-!
# XML

Elements and their text. Every element stands on a line of its own, two spaces deeper than the one
around it; an element that holds text stands on one line with it. Attribute values and text are
escaped, names are written as they are.
-/

namespace MapMarkup.Xml

abbrev Attribute := String × String

inductive Element where
  | leaf (name : String) (attributes : List Attribute)
  | text (name : String) (attributes : List Attribute) (content : String)
  | block (name : String) (attributes : List Attribute) (children : List Element)
deriving Repr

def attributeChars (a : Attribute) : List Char :=
  ' ' :: a.1.toList ++ '=' :: '"' :: Text.escapeChars a.2.toList ++ ['"']

def tagChars (name : String) (attributes : List Attribute) : List Char :=
  name.toList ++ attributes.flatMap attributeChars

def endTag (name : String) : List Char :=
  '<' :: '/' :: name.toList ++ ['>']

mutual

def Element.chars (depth : Nat) : Element → List Char
  | .leaf name attributes =>
    Text.newLine depth ++ '<' :: tagChars name attributes ++ ['/', '>']
  | .text name attributes content =>
    Text.newLine depth ++ '<' :: tagChars name attributes ++ '>' :: Text.escapeChars content.toList
      ++ endTag name
  | .block name attributes children =>
    Text.newLine depth ++ '<' :: tagChars name attributes ++ '>' :: charsOfAll (depth + 1) children
      ++ Text.newLine depth ++ endTag name

def charsOfAll (depth : Nat) : List Element → List Char
  | [] => []
  | e :: es => e.chars depth ++ charsOfAll depth es

end

def declaration : List Char :=
  "<?xml version=\"1.0\" encoding=\"UTF-8\"?>".toList

def textOf (root : Element) : String :=
  String.ofList (declaration ++ root.chars 0)

end MapMarkup.Xml
