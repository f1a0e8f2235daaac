import MapMarkup.Decimal.Reading
import MapMarkup.Yaml.Node

/-!
# Values in YAML documents

Reading values of known kinds out of the nodes of a document. What a plain scalar means depends on
the kind that is asked for: `true` is a flag where a flag is asked for and a text where a text is.
Quotes keep a scalar from being anything but a text.

An alias is read as the node that it stands for. Aliases may be followed a hundred times for each
part of the document, so a small document cannot stand for an enormous value.
-/

namespace MapMarkup.Yaml

/-- A step of reading values; the state is how many aliases may still be followed. -/
abbrev Access (α : Type) := ReaderT Document (StateT Nat (Except Fault)) α

namespace Access

def follow : Node → Access Node
  | .alias number => do
    match ← get with
    | 0 => throw .tooManyAliases
    | left + 1 =>
      set left
      match (← read).anchored.lookup number with
      | some n => return n
      | none => throw .unknownAlias
  | n => return n

def text (n : Node) : Access String := do
  match ← follow n with
  | .scalar _ cs _ => return String.ofList cs
  | _ => throw .wrongKind

def usualTag (name : String) : List Char :=
  ("tag:yaml.org,2002:" ++ name).toList

/-- The characters of a scalar that can be more than a text: a plain one, or a literal block with
the tag of the kind. -/
def bareText (kind : String) (n : Node) : Access (List Char) := do
  match ← follow n with
  | .scalar _ cs .plain => return cs
  | .scalar p cs .literal => if p.tag = some (usualTag kind) then return cs else throw .wrongKind
  | _ => throw .wrongKind

/-- A flag: true or false, in small letters, capitals or with one capital. -/
def flag (n : Node) : Access Bool := do
  let word := String.ofList (← bareText "bool" n)
  if ["true", "True", "TRUE"].contains word then return true
  else if ["false", "False", "FALSE"].contains word then return false
  else throw .wrongKind

/-- The float that a text stands for. Infinity and the undefined value are words after a point; a
plus sign is allowed before all but the undefined value. -/
def float? (cs : List Char) : Option Float :=
  let (plus, magnitude) := match cs with
    | '+' :: rest => (true, rest)
    | _ => (false, cs)
  let word := String.ofList magnitude
  if plus && (magnitude.head? = some '+' || magnitude.head? = some '-') then none
  else if [".inf", ".Inf", ".INF"].contains word then some (1.0 / 0.0)
  else if ["-.inf", "-.Inf", "-.INF"].contains word then some (-1.0 / 0.0)
  else if !plus && [".nan", ".NaN", ".NAN"].contains word then some (0.0 / 0.0)
  else (Decimal.readFloat magnitude).filter Float.isFinite

def number (n : Node) : Access Float := do
  match float? (← bareText "float" n) with
  | some x => return x
  | none => throw .wrongKind

def isNull (cs : List Char) : Bool :=
  ["null", "Null", "NULL", "~"].contains (String.ofList cs)

/-- A value that may be missing: a plain scalar that is empty or a word for nothing stands for
none. With any tag but that of nothing, it stands for a value. -/
def optional {α : Type} (value : Node → Access α) (n : Node) : Access (Option α) := do
  let n ← follow n
  match n with
  | .scalar p cs .plain =>
    match p.tag with
    | none => if cs = [] || isNull cs then return none else return some (← value n)
    | some tag =>
      if tag ≠ usualTag "null" then return some (← value n)
      else if isNull cs then return none
      else throw .wrongKind
  | _ => return some (← value n)

def list {α : Type} (value : Node → Access α) (n : Node) : Access (List α) := do
  match ← follow n with
  | .sequence _ items => items.mapM value
  | .scalar _ [] .plain => return []
  | _ => throw .wrongKind

/-! ### Records -/

abbrev Fields := List (String × Node)

/-- The fields of the given names among the entries of a mapping, each there at most once. Entries
of other names do not matter. -/
def knownFields (names : List String) : List (Node × Node) → Fields → Access Fields
  | [], found => return found
  | (key, value) :: entries, found => do
    let name ← text key
    if !names.contains name then knownFields names entries found
    else if found.any (·.1 = name) then throw (.repeatedField name)
    else knownFields names entries ((name, value) :: found)

/-- A record with fields of the given names. Nothing at all is a record without fields. -/
def record (names : List String) (n : Node) : Access Fields := do
  match ← follow n with
  | .mapping _ entries => knownFields names entries []
  | .scalar _ [] .plain => return []
  | _ => throw .wrongKind

/-- The value of a field, or the given one if the field is not there. -/
def field {α : Type} (fields : Fields) (name : String) (value : Node → Access α) (usual : α) :
    Access α :=
  match fields.lookup name with
  | some n => value n
  | none => return usual

def required {α : Type} (fields : Fields) (name : String) (value : Node → Access α) : Access α :=
  match fields.lookup name with
  | some n => value n
  | none => throw (.missingField name)

end Access

def Document.value {α : Type} (d : Document) (value : Node → Access α) : Except Fault α :=
  ((value d.root).run d).run' (100 * d.root.size)

end MapMarkup.Yaml
