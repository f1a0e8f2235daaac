import MapMarkup.Yaml.Cursor

/-!
# YAML scalars

The text of scalars in their five forms: plain, in single or double quotes, and as literal or folded
blocks. In plain and quoted scalars a line break between two lines becomes a space, and of several
line breaks the first is dropped (`Gap.text`).

Each loop is given as many steps as there are characters left, and every step consumes one.
-/

namespace MapMarkup.Yaml

inductive ScalarStyle where
  | plain
  | singleQuoted
  | doubleQuoted
  | literal
  | folded
deriving Repr, DecidableEq

/-- What stands between two words of a scalar. -/
structure Gap where
  blanks : List Char := []
  broken : Bool := false
  first : List Char := []
  more : List Char := []

def Gap.text (g : Gap) : List Char :=
  if g.broken then
    if g.first = ['\n'] then (if g.more = [] then [' '] else g.more) else g.first ++ g.more
  else g.blanks

/-- Reads a gap. Below `indent`, a tab may not stand at the start of a line. -/
def readGap (indent : Nat) : Nat → Cursor → Gap → Except Fault (Gap × Cursor)
  | 0, c, g => .ok (g, c)
  | steps + 1, c, g =>
    match c.rest with
    | [] => .ok (g, c)
    | x :: _ =>
      if isSpace x then
        if g.broken then
          if c.column < indent && x = '\t' then .error .badToken
          else readGap indent steps (c.skip 1) g
        else readGap indent steps (c.skip 1) { g with blanks := g.blanks ++ [x] }
      else if isBreak x then
        if g.broken then readGap indent steps c.skipBreak { g with more := g.more ++ [x] }
        else readGap indent steps c.skipBreak { g with blanks := [], broken := true, first := [x] }
      else .ok (g, c)

/-! ### Plain scalars -/

def isFlowMark (c : Char) : Bool :=
  c = ',' || c = '[' || c = ']' || c = '{' || c = '}'

/-- The next word of a plain scalar. In flow collections a colon may not touch the mark after it. -/
def plainWord (flow : Bool) : List Char → Except Fault (List Char)
  | [] => .ok []
  | x :: rest =>
    if isSpace x || isBreak x then .ok []
    else if flow && x = ':' && (rest.head?.any fun y => isFlowMark y || y = '?') then
      .error .badToken
    else if (x = ':' && endsWord rest) || (flow && isFlowMark x) then .ok []
    else (plainWord flow rest).map (x :: ·)

/-- The words of a plain scalar that follow a gap, with the gaps before them. The answer says too
whether a line break was passed after the last word. -/
def plainWords (flow : Bool) (indent : Nat) :
    Nat → Cursor → Gap → Except Fault (List Char × Bool × Cursor)
  | 0, c, g => .ok ([], g.broken, c)
  | steps + 1, c, g =>
    if c.atDocumentMark || c.peek? = some '#' then .ok ([], g.broken, c)
    else do
      let word ← plainWord flow c.rest
      let c := c.skip word.length
      let (text, g) := if word = [] then ([], g) else (g.text ++ word, {})
      if endsWord c.rest && c.rest ≠ [] then
        let (g, c) ← readGap indent c.rest.length c g
        if !flow && c.column < indent then .ok (text, g.broken, c)
        else
          let (more, broken, c) ← plainWords flow indent steps c g
          .ok (text ++ more, broken, c)
      else .ok (text, g.broken, c)

/-- A plain scalar that belongs to lines indented to at least `indent`. -/
def plainScalar (flow : Bool) (indent : Nat) (c : Cursor) :
    Except Fault (List Char × Bool × Cursor) :=
  plainWords flow indent (c.rest.length + 1) c {}

/-! ### Quoted scalars -/

def hexValue? (c : Char) : Option Nat :=
  if c.isDigit then some (c.toNat - 48)
  else if 'a' ≤ c && c ≤ 'f' then some (c.toNat - 87)
  else if 'A' ≤ c && c ≤ 'F' then some (c.toNat - 55)
  else none

/-- The number that exactly `n` hexadecimal digits at the start of a text stand for. -/
def hexNumber? (n : Nat) (cs : List Char) : Option Nat :=
  let digits := cs.take n
  if digits.length = n then
    digits.foldl (fun value? d => value?.bind fun v => (hexValue? d).map fun h => 16 * v + h)
      (some 0)
  else none

def charOf? (n : Nat) : Option Char :=
  if (0xD800 ≤ n && n ≤ 0xDFFF) || 0x10FFFF < n then none else some (Char.ofNat n)

/-- The characters that one letter after a backslash stands for. -/
def simpleEscapes : List (Char × Nat) :=
  [('0', 0), ('a', 7), ('b', 8), ('t', 9), ('\t', 9), ('n', 10), ('v', 11), ('f', 12), ('r', 13),
    ('e', 27), (' ', 32), ('"', 34), ('/', 47), ('\\', 92), ('N', 0x85), ('_', 0xA0),
    ('L', 0x2028), ('P', 0x2029)]

/-- The letters after a backslash that hexadecimal digits follow, with their number. -/
def hexEscapes : List (Char × Nat) := [('x', 2), ('u', 4), ('U', 8)]

/-- The character of an escape sequence and how much of the text after the backslash it takes. -/
def escape? : List Char → Option (Char × Nat)
  | [] => none
  | x :: rest =>
    match simpleEscapes.lookup x, hexEscapes.lookup x with
    | some n, _ => some (Char.ofNat n, 1)
    | none, some digits =>
      ((hexNumber? digits rest).bind charOf?).map fun c => (c, digits + 1)
    | none, none => none

/-- The next word of a quoted scalar: its text, how much of the line it takes, and whether a
backslash before the line break ends it. -/
def quotedWord (double : Bool) (cs : List Char) : Except Fault (List Char × Nat × Bool) :=
  match cs with
  | [] => .ok ([], 0, false)
  | x :: rest =>
    if isSpace x || isBreak x then .ok ([], 0, false)
    else if !double && x = '\'' then
      match rest with
      | '\'' :: rest => (quotedWord double rest).map fun (t, n, b) => ('\'' :: t, n + 2, b)
      | _ => .ok ([], 0, false)
    else if double && x = '"' then .ok ([], 0, false)
    else if double && x = '\\' then
      if endsLine rest && rest ≠ [] then .ok ([], 1, true)
      else
        match escape? rest with
        | some (e, taken) =>
          (quotedWord double (rest.drop taken)).map fun (t, n, b) => (e :: t, n + taken + 1, b)
        | none => .error .badToken
    else (quotedWord double rest).map fun (t, n, b) => (x :: t, n + 1, b)
termination_by cs.length
decreasing_by
  all_goals simp only [List.length_cons, List.length_drop]
  all_goals omega

/-- The words of a quoted scalar up to its closing quote, and the gaps between them. -/
def quotedWords (double : Bool) : Nat → Cursor → Except Fault (List Char × Cursor)
  | 0, _ => .error .badToken
  | steps + 1, c =>
    if c.atDocumentMark || c.rest = [] then .error .badToken
    else do
      let (word, taken, escaped) ← quotedWord double c.rest
      let c := c.skip taken
      let (c, g) : Cursor × Gap := if escaped then (c.skipBreak, { broken := true }) else (c, {})
      if c.peek? = some (if double then '"' else '\'') then
        .ok (word, c.skip 1)
      else
        let (g, c) ← readGap 0 c.rest.length c g
        let (more, c) ← quotedWords double steps c
        .ok (word ++ g.text ++ more, c)

/-- A quoted scalar; the cursor stands on the opening quote. -/
def quotedScalar (double : Bool) (c : Cursor) : Except Fault (List Char × Cursor) :=
  quotedWords double (c.rest.length + 1) (c.skip 1)

/-! ### Block scalars -/

/-- What happens to the line breaks at the end of a block. -/
inductive Chomping where
  | strip
  | clip
  | keep
deriving DecidableEq

def readChomping (c : Cursor) : Option Chomping × Cursor :=
  match c.peek? with
  | some '+' => (some .keep, c.skip 1)
  | some '-' => (some .strip, c.skip 1)
  | _ => (none, c)

/-- The indentation of a block, if a digit says it; 0 says nothing and is an error as a digit. -/
def readIndentation (c : Cursor) : Except Fault (Nat × Cursor) :=
  match c.peek? with
  | some d =>
    if d.isDigit then
      if d = '0' then .error .badToken else .ok (d.toNat - 48, c.skip 1)
    else .ok (0, c)
  | none => .ok (0, c)

def readBlockMarks (c : Cursor) : Except Fault (Chomping × Nat × Cursor) :=
  match readChomping c with
  | (some chomping, c) => (readIndentation c).map fun (n, c) => (chomping, n, c)
  | (none, c) => do
    let (n, c) ← readIndentation c
    if n = 0 then .ok (.clip, 0, c)
    else
      let (chomping, c) := readChomping c
      .ok (chomping.getD .clip, n, c)

/-- Empty lines in a block: their line breaks, the deepest column reached, and the place of the next
text. The indentation is 0 as long as it is not known. -/
def blockBreaks (indent : Nat) :
    Nat → Nat → List Char → Cursor → Except Fault (List Char × Nat × Cursor)
  | 0, deepest, breaks, c => .ok (breaks, deepest, c)
  | steps + 1, deepest, breaks, c =>
    let blanks := (c.rest.takeWhile (· = ' ')).length
    let c := c.skip (if indent = 0 then blanks else min blanks (indent - c.column))
    let deepest := max deepest c.column
    match c.rest with
    | [] => .ok (breaks, deepest, c)
    | x :: _ =>
      if (indent = 0 || c.column < indent) && x = '\t' then .error .badToken
      else if isBreak x then blockBreaks indent steps deepest (breaks ++ [x]) c.skipBreak
      else .ok (breaks, deepest, c)

/-- The lines of a block. `first` is the line break before the line at hand and `more` are those
after it; `blankBefore` says that the line before it started with a blank. The answer holds the line
breaks after the last line in the same way. -/
def blockLines (folded : Bool) (indent : Nat) :
    Nat → Cursor → List Char → List Char → Bool →
      Except Fault (List Char × List Char × List Char × Cursor)
  | 0, c, first, more, _ => .ok ([], first, more, c)
  | steps + 1, c, first, more, blankBefore =>
    if c.column ≠ indent || c.rest = [] then .ok ([], first, more, c)
    else do
      let blank := c.peek?.any isSpace
      let joint :=
        if folded && first = ['\n'] && !blankBefore && !blank then
          (if more = [] then [' '] else [])
        else first
      let (line, c) := c.span fun x => !isBreak x
      let (next, c) := match c.rest with
        | [] => ([], c)
        | x :: _ => ([x], c.skipBreak)
      let (breaks, _, c) ← blockBreaks indent (c.rest.length + 1) 0 [] c
      let (text, rest) ← blockLines folded indent steps c next breaks blank
      .ok (joint ++ more ++ line ++ text, rest)

/-- A block scalar inside lines indented to `parent`; the cursor stands on its first mark. -/
def blockScalar (folded : Bool) (parent : Int) (c : Cursor) :
    Except Fault (List Char × Cursor) := do
  let (chomping, increment, c) ← readBlockMarks (c.skip 1)
  let c ← c.endLine
  let said := if increment = 0 then 0 else parent.toNat + increment
  let (more, deepest, c) ← blockBreaks said (c.rest.length + 1) 0 [] c
  let indent := if said = 0 then max (max deepest (parent + 1).toNat) 1 else said
  let (text, first, more, c) ← blockLines folded indent (c.rest.length + 1) c [] more false
  let tail := match chomping with
    | .strip => []
    | .clip => first
    | .keep => first ++ more
  .ok (text ++ tail, c)

end MapMarkup.Yaml
