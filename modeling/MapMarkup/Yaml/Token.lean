import MapMarkup.Yaml.Scalar

/-!
# YAML tokens

The tokens of a YAML stream. Indentation becomes tokens too: a block collection starts where a
column deeper than the one around it holds the first entry, and ends where the column falls back.

A mapping key is recognised only when its colon is met. So each place at which a key could have
started is remembered (`PossibleKey`), one for each flow collection that is open, and the key token
is inserted there afterwards. A key stays within its line and within 1024 bytes.
-/

namespace MapMarkup.Yaml

inductive Token where
  | versionDirective (major minor : Nat)
  | tagDirective (handle start : List Char)
  | documentStart
  | documentEnd
  | blockSequenceStart
  | blockMappingStart
  | blockEnd
  | flowSequenceStart
  | flowSequenceEnd
  | flowMappingStart
  | flowMappingEnd
  | blockEntry
  | flowEntry
  | key
  | value
  | alias (name : List Char)
  | anchor (name : List Char)
  | tag (handle suffix : List Char)
  | scalar (text : List Char) (style : ScalarStyle)
deriving Repr, DecidableEq

/-! ### Anchors, tags and directives -/

def anchorName (c : Cursor) : Except Fault (List Char × Cursor) :=
  let (name, c) := (c.skip 1).span isNameChar
  let mayFollow := endsWord c.rest
    || c.peek?.any fun x => ['?', ':', ',', ']', '}', '%', '@', '\x60'].contains x
  if name ≠ [] && mayFollow then .ok (name, c) else .error .badToken

/-- The marks that a tag may hold beside letters and digits. -/
def tagMarks : List Char :=
  [';', '/', '?', ':', '@', '&', '=', '+', '$', '.', '!', '~', '*', '\'', '(', ')']

/-- A character of a tag that stands for itself. A tag between angle brackets may hold more. -/
def isTagChar (bracketed : Bool) (c : Char) : Bool :=
  isNameChar c || tagMarks.contains c || (bracketed && (c = ',' || c = '[' || c = ']'))

/-- A byte written as `%` and two hexadecimal digits at the start of a text. -/
def escapedByte? : List Char → Option Nat
  | '%' :: rest => hexNumber? 2 rest
  | _ => none

/-- How many bytes the character takes whose first byte is given; 0 for a byte that begins none. -/
def charWidth (b : Nat) : Nat :=
  if b < 0x80 then 1
  else if b / 0x20 = 6 then 2
  else if b / 0x10 = 14 then 3
  else if b / 0x08 = 30 then 4
  else 0

/-- The bytes of an escaped character: one that tells their number, and those that go on. -/
def escapedBytes? (cs : List Char) : Option (List Nat) :=
  match escapedByte? cs with
  | none => none
  | some b =>
    let width := charWidth b
    let more := (List.range (width - 1)).map fun i => escapedByte? (cs.drop (3 * (i + 1)))
    if width ≠ 0 && more.all fun x => x.any fun y => y / 0x40 = 2 then
      some (b :: more.filterMap id)
    else none

/-- The characters of a tag; escaped bytes become characters of the same number. -/
def tagChars (bracketed : Bool) : Nat → List Char → Except Fault (List Char × Nat)
  | 0, _ => .ok ([], 0)
  | steps + 1, cs =>
    match cs with
    | [] => .ok ([], 0)
    | x :: rest =>
      if x = '%' then
        match escapedBytes? cs with
        | some bytes =>
          (tagChars bracketed steps (cs.drop (3 * bytes.length))).map fun (t, n) =>
            (bytes.map Char.ofNat ++ t, n + 3 * bytes.length)
        | none => .error .badToken
      else if isTagChar bracketed x then
        (tagChars bracketed steps rest).map fun (t, n) => (x :: t, n + 1)
      else .ok ([], 0)

def tagText (bracketed : Bool) (c : Cursor) : Except Fault (List Char × Cursor) :=
  (tagChars bracketed c.rest.length c.rest).map fun (t, n) => (t, c.skip n)

/-- The part of a tag that counts: a NUL character, which only an escape can bring, ends it. -/
def beforeNul (cs : List Char) : List Char :=
  cs.takeWhile fun c => c ≠ Char.ofNat 0

/-- A handle: an exclamation mark, a name, and a second exclamation mark if one follows. -/
def tagHandle (c : Cursor) : Except Fault (List Char × Cursor) :=
  if c.peek? ≠ some '!' then .error .badToken
  else
    let (name, c) := (c.skip 1).span isNameChar
    if c.peek? = some '!' then .ok ('!' :: name ++ ['!'], c.skip 1) else .ok ('!' :: name, c)

def openTag (c : Cursor) : Except Fault (Token × Cursor) := do
  if c.rest.take 2 = ['!', '<'] then
    let (suffix, c) ← tagText true (c.skip 2)
    if suffix ≠ [] && c.peek? = some '>' then .ok (.tag [] (beforeNul suffix), c.skip 1)
    else .error .badToken
  else
    let (handle, c) ← tagHandle c
    let (text, c) ← tagText false c
    if 2 ≤ handle.length && handle.getLast? = some '!' then
      if text = [] then .error .badToken else .ok (.tag handle (beforeNul text), c)
    else
      let suffix := beforeNul (handle.drop 1 ++ text)
      if suffix = [] then .ok (.tag [] ['!'], c) else .ok (.tag ['!'] suffix, c)

/-- A tag; the cursor stands on its exclamation mark. -/
def readTag (flow : Bool) (c : Cursor) : Except Fault (Token × Cursor) := do
  let (tag, c) ← openTag c
  if (flow && c.peek? = some ',') || endsWord c.rest then .ok (tag, c) else .error .badToken

def versionNumber (c : Cursor) : Except Fault (Nat × Cursor) :=
  let (digits, c) := c.span Char.isDigit
  if digits = [] || 9 < digits.length then .error .badToken
  else .ok (digits.foldl (fun n d => 10 * n + (d.toNat - 48)) 0, c)

def directiveBody (name : List Char) (c : Cursor) : Except Fault (Token × Cursor) := do
  if name = "YAML".toList then
    let (major, c) ← versionNumber (c.skipWhile isSpace)
    if c.peek? ≠ some '.' then .error .badToken
    else
      let (minor, c) ← versionNumber (c.skip 1)
      .ok (.versionDirective major minor, c)
  else if name = "TAG".toList then
    let (handle, c) ← tagHandle (c.skipWhile isSpace)
    if handle ≠ ['!'] && handle.getLast? ≠ some '!' then .error .badToken
    else if !c.peek?.any isSpace then .error .badToken
    else
      let (start, c) ← tagText true (c.skipWhile isSpace)
      if start = [] || !endsWord c.rest then .error .badToken
      else .ok (.tagDirective handle (beforeNul start), c)
  else .error .badToken

def readDirective (c : Cursor) : Except Fault (Token × Cursor) := do
  let (name, c) := (c.skip 1).span isNameChar
  if name = [] || !endsWord c.rest then .error .badToken
  else
    let (token, c) ← directiveBody name c
    .ok (token, ← c.endLine)

/-! ### The scanner -/

/-- A place at which a mapping key could have started. -/
structure PossibleKey where
  required : Bool
  position : Nat
  index : Nat
  line : Nat
  column : Nat

/-- A scanner on its way through a stream. -/
structure Scanner where
  cursor : Cursor
  tokens : List Token := []
  indent : Int := -1
  outer : List Int := []
  keyAllowed : Bool := true
  possible : Option PossibleKey := none
  outerPossible : List (Option PossibleKey) := []

namespace Scanner

def inFlow (s : Scanner) : Bool := s.outerPossible ≠ []

def push (s : Scanner) (t : Token) : Scanner :=
  { s with tokens := t :: s.tokens }

/-- The scanner with a token inserted where `position` tokens precede it. -/
def insert (s : Scanner) (position : Nat) (t : Token) : Scanner :=
  let after := s.tokens.length - position
  { s with tokens := s.tokens.take after ++ t :: s.tokens.drop after }

def moved (s : Scanner) (c : Cursor) : Scanner :=
  { s with cursor := c }

def closeBlocks (s : Scanner) (column : Int) : Scanner :=
  if s.inFlow then s
  else
    let deeper := (s.indent :: s.outer).takeWhile fun i => column < i
    let rest := (s.indent :: s.outer).drop deeper.length
    { s with
      tokens := deeper.map (fun _ => .blockEnd) ++ s.tokens
      indent := rest.headD (-1)
      outer := rest.drop 1 }

/-- Starts a block collection at a column that is deeper than the one at hand. -/
def openBlock (s : Scanner) (column : Nat) (position : Nat) (t : Token) : Scanner :=
  if !s.inFlow && s.indent < column then
    { s.insert position t with indent := column, outer := s.indent :: s.outer }
  else s

/-- Forgets the possible key at hand; one that was required is missed. -/
def dropKey (s : Scanner) : Except Fault Scanner :=
  if s.possible.any (·.required) then .error .badToken else .ok { s with possible := none }

/-- A key that started on an earlier line or too far back is no key any more. -/
def refreshKey (c : Cursor) (key : Option PossibleKey) : Except Fault (Option PossibleKey) :=
  match key with
  | none => .ok none
  | some k =>
    if k.line < c.line || k.index + 1024 < c.index then
      if k.required then .error .badToken else .ok none
    else .ok (some k)

def refreshKeys (s : Scanner) : Except Fault Scanner := do
  let possible ← refreshKey s.cursor s.possible
  let outerPossible ← s.outerPossible.mapM (refreshKey s.cursor)
  .ok { s with possible, outerPossible }

/-- Remembers that a key may start at the cursor, if one may. -/
def saveKey (s : Scanner) : Except Fault Scanner :=
  if s.keyAllowed then do
    let c := s.cursor
    let s ← s.dropKey
    .ok { s with
      possible := some {
        required := !s.inFlow && s.indent = c.column
        position := s.tokens.length
        index := c.index
        line := c.line
        column := c.column } }
  else .ok s

/-- Moves to the next token, over blanks, comments and line breaks. A tab is a blank only where no
key may start. A byte order mark at the start of a line is passed too, but takes up a column. -/
def skipToToken : Nat → Scanner → Scanner
  | 0, s => s
  | steps + 1, s =>
    let c := s.cursor
    let c := if c.column = 0 && c.peek? = some orderMark then c.skip 1 else c
    let c := c.skipWhile fun x => x = ' ' || ((s.inFlow || !s.keyAllowed) && x = '\t')
    let c := c.skipComment
    match c.rest with
    | [] => s.moved c
    | x :: _ =>
      if isBreak x then
        skipToToken steps { s with cursor := c.skipBreak, keyAllowed := s.keyAllowed || !s.inFlow }
      else s.moved c

def single (s : Scanner) (t : Token) (keyAllowed : Bool) : Except Fault Scanner := do
  let s ← s.dropKey
  .ok { s.push t with cursor := s.cursor.skip 1, keyAllowed }

def documentMark (s : Scanner) (t : Token) : Except Fault Scanner := do
  let s ← (s.closeBlocks (-1)).dropKey
  .ok { s.push t with cursor := s.cursor.skip 3, keyAllowed := false }

def directive (s : Scanner) : Except Fault Scanner := do
  let s ← (s.closeBlocks (-1)).dropKey
  let (t, c) ← readDirective s.cursor
  .ok { s.push t with cursor := c, keyAllowed := false }

def flowStart (s : Scanner) (t : Token) : Except Fault Scanner := do
  let s ← s.saveKey
  .ok { s.push t with
    cursor := s.cursor.skip 1
    keyAllowed := true
    possible := none
    outerPossible := s.possible :: s.outerPossible }

def flowEnd (s : Scanner) (t : Token) : Except Fault Scanner := do
  let s ← s.dropKey
  let s := match s.outerPossible with
    | [] => s
    | k :: ks => { s with possible := k, outerPossible := ks }
  .ok { s.push t with cursor := s.cursor.skip 1, keyAllowed := false }

def blockEntry (s : Scanner) : Except Fault Scanner :=
  if !s.inFlow && !s.keyAllowed then .error .badToken
  else (s.openBlock s.cursor.column s.tokens.length .blockSequenceStart).single .blockEntry true

def explicitKey (s : Scanner) : Except Fault Scanner :=
  if !s.inFlow && !s.keyAllowed then .error .badToken
  else (s.openBlock s.cursor.column s.tokens.length .blockMappingStart).single .key (!s.inFlow)

/-- The mark of a value. If a key could have started before it, one did. -/
def value (s : Scanner) : Except Fault Scanner :=
  let finish (s : Scanner) (keyAllowed : Bool) : Scanner :=
    { s.push .value with cursor := s.cursor.skip 1, keyAllowed }
  match s.possible with
  | some k =>
    let s := (s.insert k.position .key).openBlock k.column k.position .blockMappingStart
    .ok (finish { s with possible := none } false)
  | none =>
    if !s.inFlow && !s.keyAllowed then .error .badToken
    else
      .ok (finish (s.openBlock s.cursor.column s.tokens.length .blockMappingStart) (!s.inFlow))

def keyToken (s : Scanner) (read : Cursor → Except Fault (Token × Cursor)) :
    Except Fault Scanner := do
  let s ← s.saveKey
  let (t, c) ← read s.cursor
  .ok { s.push t with cursor := c, keyAllowed := false }

def block (s : Scanner) (folded : Bool) : Except Fault Scanner := do
  let s ← s.dropKey
  let (text, c) ← blockScalar folded s.indent s.cursor
  .ok { s.push (.scalar text (if folded then .folded else .literal)) with
    cursor := c, keyAllowed := true }

/-- A plain scalar. After a line break a key may start again. -/
def plain (s : Scanner) : Except Fault Scanner := do
  let s ← s.saveKey
  let (text, broken, c) ← plainScalar s.inFlow (s.indent + 1).toNat s.cursor
  .ok { s.push (.scalar text .plain) with cursor := c, keyAllowed := broken }

/-- The characters that no plain scalar starts with unless more is known. -/
def startMarks : List Char :=
  ['-', '?', ':', ',', '[', ']', '{', '}', '#', '&', '*', '!', '|', '>', '\'', '"', '%', '@',
    '\x60']

/-- A plain scalar may start with these characters. -/
def startsPlain (flow : Bool) (x : Char) (rest : List Char) : Bool :=
  !(isSpace x || isBreak x || startMarks.contains x)
    || (x = '-' && !(rest.head?.any isSpace))
    || (!flow && (x = '?' || x = ':') && !endsWord rest)

/-- The token whose first character stands at the cursor. -/
def token (s : Scanner) (x : Char) (rest : List Char) : Except Fault Scanner :=
  let flow := s.inFlow
  if s.cursor.column = 0 && x = '%' then s.directive
  else if s.cursor.atMark '-' then s.documentMark .documentStart
  else if s.cursor.atMark '.' then s.documentMark .documentEnd
  else if x = '[' then s.flowStart .flowSequenceStart
  else if x = '{' then s.flowStart .flowMappingStart
  else if x = ']' then s.flowEnd .flowSequenceEnd
  else if x = '}' then s.flowEnd .flowMappingEnd
  else if x = ',' then s.single .flowEntry true
  else if x = '-' && endsWord rest then s.blockEntry
  else if x = '?' && (flow || endsWord rest) then s.explicitKey
  else if x = ':' && (flow || endsWord rest) then s.value
  else if x = '*' then s.keyToken fun c => (anchorName c).map fun (n, c) => (.alias n, c)
  else if x = '&' then s.keyToken fun c => (anchorName c).map fun (n, c) => (.anchor n, c)
  else if x = '!' then s.keyToken (readTag flow)
  else if x = '|' && !flow then s.block false
  else if x = '>' && !flow then s.block true
  else if x = '\'' then
    s.keyToken fun c => (quotedScalar false c).map fun (t, c) => (.scalar t .singleQuoted, c)
  else if x = '"' then
    s.keyToken fun c => (quotedScalar true c).map fun (t, c) => (.scalar t .doubleQuoted, c)
  else if startsPlain flow x rest then s.plain
  else .error .badToken

/-- The tokens from the cursor on. The end of the stream ends every block. -/
def scan : Nat → Scanner → Except Fault (List Token)
  | 0, _ => .error .badToken
  | steps + 1, s => do
    let s ← (skipToToken (s.cursor.rest.length + 1) s).refreshKeys
    let s := s.closeBlocks s.cursor.column
    match s.cursor.rest with
    | [] =>
      let s ← (s.closeBlocks (-1)).dropKey
      .ok s.tokens.reverse
    | x :: rest => scan steps (← s.token x rest)

end Scanner

def Token.ofText (text : String) : Except Fault (List Token) := do
  let c ← Cursor.ofText text
  Scanner.scan (c.rest.length + 1) { cursor := c }

end MapMarkup.Yaml
