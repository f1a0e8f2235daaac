import MapMarkup.Text.Alphanumeric
import MapMarkup.Text.Blank

/-!
# Environments

Named variables, and files that add variables to them. A file has a statement `name=value` on each
line; quotes let a value hold line breaks, a number sign after a blank starts a comment, and `$name`
or a name in braces after a dollar sign stands for the value of a variable. A variable that is there
already stays as it is, and what follows a line that is no statement does not count. A value with a
NUL character cannot be held.

Variables are looked up as entries `name=value`, by what an entry begins with. So a name that holds
an equals sign reaches into a value: where `A` is `b=c`, the value of `A=b` is `c`.
-/

namespace MapMarkup

abbrev Environment := List (String × String)

namespace Environment

/-- What follows a name and an equals sign in an entry that begins with them. -/
def entryValue? (name : List Char) (entry : String × String) : Option (List Char) :=
  (name ++ ['=']).isPrefixOf? (entry.1.toList ++ '=' :: entry.2.toList)

/-- The value of a variable, which is that of the first entry for its name. -/
def value? (env : Environment) (name : String) : Option String :=
  if name = "" then none
  else (List.findSome? (entryValue? name.toList) env).map String.ofList

/-- The value of a variable; nothing if it is not there. -/
def valueOf (env : Environment) (name : List Char) : List Char :=
  ((env.value? (String.ofList name)).getD "").toList

def sets (env : Environment) (name : String) : Bool :=
  (env.value? name).any (· ≠ "")

/-- Why a file of variables is not read further. -/
inductive Halt where
  /-- A line is no statement. -/
  | notStatement
  /-- A value holds a NUL character. -/
  | unholdable
deriving DecidableEq

/-- The environment with one more variable, unless it has one of that name. -/
def extend (env : Environment) (name value : List Char) : Except Halt Environment :=
  if (env.value? (String.ofList name)).isSome then .ok env
  else if value.contains (Char.ofNat 0) then .error .unholdable
  else .ok (env ++ [(String.ofList name, String.ofList value)])

/-! ### Lines -/

/-- Where a line stands as to quotes. -/
inductive Quoting where
  | outside
  /-- Outside, after a blank. -/
  | blank
  | escaped
  | single
  | singleEscaped
  | double
  | doubleEscaped
deriving DecidableEq

def Quoting.step (c : Char) : Quoting → Quoting
  | outside =>
    if Text.isBlank c && c ≠ '\n' && c ≠ '\r' then blank
    else if c = '\\' then escaped
    else if c = '"' then double
    else if c = '\'' then single
    else outside
  | blank =>
    if c = '\\' then escaped
    else if c = '"' then double
    else if c = '\'' then single
    else outside
  | escaped => outside
  | single => if c = '\\' then singleEscaped else if c = '\'' then outside else single
  | singleEscaped => single
  | double => if c = '\\' then doubleEscaped else if c = '"' then outside else double
  | doubleEscaped => double

/-- A line up to a comment, if it has one, and otherwise the quoting at its end. -/
def scanLine : Quoting → List Char → Quoting × Option (List Char)
  | q, [] => (q, none)
  | q, c :: cs =>
    if q = .blank && c = '#' then (q, some [])
    else
      let (last, comment) := scanLine (q.step c) cs
      (last, comment.map (c :: ·))

def fileLines : List Char → List (List Char)
  | [] => []
  | c :: cs =>
    if c = '\n' then [c] :: fileLines cs
    else
      match fileLines cs with
      | [] => [[c]]
      | line :: lines => (c :: line) :: lines

def withoutBreak (line : List Char) : List Char :=
  match line.reverse with
  | '\n' :: '\r' :: rest => rest.reverse
  | '\n' :: rest => rest.reverse
  | _ => line

/-- Whether nothing but a comment stands on a line. -/
def isComment (line : List Char) : Bool :=
  (Text.trimStart line).head? = some '#'

/-- The statements of a file. One goes on over lines as long as a quote is open; an open quote at
the end is no statement. -/
def statements : List (List Char) → List Char → Quoting → List (Option (List Char))
  | [], _, q => if q = .outside then [] else [none]
  | line :: lines, before, q =>
    let text := before ++ line
    if isComment text then some [] :: statements lines [] .outside
    else
      match scanLine q line with
      | (_, some start) => some (before ++ start) :: statements lines [] .outside
      | (.outside, none) => some (withoutBreak text) :: statements lines [] .outside
      | (q, none) => statements lines text q

/-! ### Statements -/

inductive ValueState where
  | text
  | escaped
  | single
  /-- In the name of a variable after a dollar sign. -/
  | name (name : List Char)
  /-- In the name of a variable in braces. -/
  | braced (name : List Char)
  /-- After the blank that ends the value. -/
  | done

/-- What a character after a backslash stands for. -/
def unescape (c : Char) : Option Char :=
  if c = 'n' then some '\n'
  else if ['\\', '\'', '"', '$', ' '].contains c then some c
  else none

/-- What the rest of a value stands for; `double` says that a double quote is open. -/
def readValue (env : Environment) : ValueState → Bool → List Char → Option (List Char)
  | .braced _, _, [] | .single, _, [] => none
  | .name name, double, [] => if double then none else some (env.valueOf name)
  | _, double, [] => if double then none else some []
  | .done, double, c :: cs =>
    if c = ' ' || c = '\t' then readValue env .done double cs
    else if c = '#' then some []
    else none
  | .escaped, double, c :: cs => do
    return (← unescape c) :: (← readValue env .text double cs)
  | .single, double, c :: cs =>
    if c = '\'' then readValue env .text double cs
    else (readValue env .single double cs).map (c :: ·)
  | .name name, double, c :: cs =>
    if Text.isAlphanumeric c then readValue env (.name (name ++ [c])) double cs
    else if c = '\x7b' && name = [] then readValue env (.braced []) double cs
    else
      let rest :=
        if c = '$' then readValue env (.name []) double cs
        else (readValue env .text double cs).map (c :: ·)
      rest.map (env.valueOf name ++ ·)
  | .braced name, double, c :: cs =>
    if c = '\x7d' then (readValue env .text double cs).map (env.valueOf name ++ ·)
    else readValue env (.braced (name ++ [c])) double cs
  | .text, double, c :: cs =>
    if c = '$' then readValue env (.name []) double cs
    else if c = '"' then readValue env .text (!double) cs
    else if c = '\\' then readValue env .escaped double cs
    else if double then (readValue env .text double cs).map (c :: ·)
    else if c = '\'' then readValue env .single double cs
    else if c = ' ' || c = '\t' then readValue env .done double cs
    else (readValue env .text double cs).map (c :: ·)

def readName (cs : List Char) : Option (List Char × List Char) :=
  let inName (c : Char) : Bool := c.isAlphanum || c = '_' || c = '.'
  if cs.head?.any fun c => c.isAlpha || c = '_' then
    some (cs.takeWhile inName, Text.trimStart (cs.dropWhile inName))
  else none

/-- The name of a statement and what follows its equals sign. The word `export` may precede it. -/
def readLeft (cs : List Char) : Option (List Char × List Char) :=
  match readName cs with
  | some (name, '=' :: rest) => some (name, rest)
  | some (name, rest) =>
    if name = "export".toList then
      match readName rest with
      | some (name, '=' :: rest) => some (name, rest)
      | _ => none
    else none
  | none => none

def execute (env : Environment) (statement : List Char) : Except Halt Environment :=
  let cs := Text.trimChars statement
  if cs = [] || isComment cs then .ok env
  else
    match readLeft cs with
    | none => .error .notStatement
    | some (name, rest) =>
      let rest := Text.trimStart rest
      let value := if rest = [] || isComment rest then some [] else readValue env .text false rest
      match value with
      | some v => env.extend name v
      | none => .error .notStatement

/-- The environment after statements, up to the first one that is none. There is no answer when a
value cannot be held. -/
def executeAll : Environment → List (Option (List Char)) → Option Environment
  | env, some s :: rest =>
    match env.execute s with
    | .ok env => executeAll env rest
    | .error .notStatement => some env
    | .error .unholdable => none
  | env, _ => some env

def withoutMark : List Char → List Char
  | [] => []
  | c :: cs => if c.toNat = 0xFEFF then cs else c :: cs

/-- The environment with the variables of a file, if their values can be held. -/
def load (env : Environment) (file : String) : Option Environment :=
  env.executeAll (statements (fileLines (withoutMark file.toList)) [] .outside)

def namesIn (file : String) : List String :=
  let words (p : Char → Bool) : List String :=
    (file.toList.splitBy fun a b => p a = p b).map String.ofList
  words (fun c => c.isAlphanum || c = '_' || c = '.') ++ words Text.isAlphanumeric
    ++ words fun c => ['\x7b', '\x7d', '=', Char.ofNat 0].contains c

end Environment

end MapMarkup
