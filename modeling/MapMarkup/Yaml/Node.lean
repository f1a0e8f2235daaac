import MapMarkup.Yaml.Token

/-!
# YAML nodes

The tree of a YAML document, read from its tokens by recursive descent. Each anchor has a number,
the number of different names before it, and an alias holds the number of its anchor; `Anchors`
finds the node of a number. Of two nodes with one number the later one counts.

Every function takes a number of steps, of which each call uses one. A call that reads no token
calls one that does, so a few steps for each token are enough.
-/

namespace MapMarkup.Yaml

/-- What is written before the content of a node. -/
structure Properties where
  anchor : Option Nat := none
  tag : Option (List Char) := none
deriving Repr, DecidableEq

inductive Node where
  | alias (number : Nat)
  | scalar (properties : Properties) (text : List Char) (style : ScalarStyle)
  | sequence (anchor : Option Nat) (items : List Node)
  | mapping (anchor : Option Nat) (entries : List (Node × Node))
deriving Repr

def Node.empty : Node := .scalar {} [] .plain

/-- The tags that handles stand for unless a directive says otherwise. -/
def usualHandles : List (List Char × List Char) :=
  [(['!'], ['!']), (['!', '!'], "tag:yaml.org,2002:".toList)]

/-- A reader on its way through the tokens of a document. -/
structure Reading where
  tokens : List Token
  handles : List (List Char × List Char) := usualHandles
  anchors : List (List Char × Nat) := []

abbrev Reader := StateT Reading (Except Fault)

namespace Reader

def peek? : Reader (Option Token) :=
  return (← get).tokens.head?

def skip : Reader Unit :=
  modify fun r => { r with tokens := r.tokens.drop 1 }

/-- Passes the next token if it is the given one, and says whether it is. -/
def accept (t : Token) : Reader Bool := do
  if (← peek?) = some t then
    skip
    return true
  else return false

/-- Passes the separator before an entry of a flow collection; the first entry has none. -/
def separate (first : Bool) : Reader Bool :=
  if first then return true else accept .flowEntry

def nextIn (ts : List Token) : Reader Bool :=
  return (← peek?).any ts.contains

def misplaced {α : Type} : Reader α := throw .badStructure

def aliasNumber (name : List Char) : Reader Nat := do
  match (← get).anchors.lookup name with
  | some n => return n
  | none => throw .unknownAlias

def anchorNumber (name : List Char) : Reader Nat := do
  let anchors := (← get).anchors
  modify fun r => { r with anchors := (name, anchors.length) :: anchors.filter (·.1 ≠ name) }
  return anchors.length

/-- The tag of a handle and a suffix; without a handle the suffix is the tag. -/
def fullTag (handle suffix : List Char) : Reader (List Char) := do
  if handle = [] then return suffix
  else
    match (← get).handles.lookup handle with
    | some start => return start ++ suffix
    | none => throw .unknownHandle

def anchor? : Reader (Option Nat) := do
  match ← peek? with
  | some (.anchor name) =>
    skip
    return some (← anchorNumber name)
  | _ => return none

def tag? : Reader (Option (List Char)) := do
  match ← peek? with
  | some (.tag handle suffix) =>
    skip
    return some (← fullTag handle suffix)
  | _ => return none

def properties : Reader Properties := do
  match ← anchor? with
  | some a => return { anchor := some a, tag := ← tag? }
  | none =>
    let tag ← tag?
    return { anchor := ← anchor?, tag }

def bare (p : Properties) : Reader Node :=
  if p = {} then misplaced else return .scalar p [] .plain

/-! ### The grammar -/

mutual

/-- A node. Block collections can stand here if `block`, and if `indentless` also a sequence whose
marks are not indented. -/
def node (block indentless : Bool) : Nat → Reader Node
  | 0 => misplaced
  | n + 1 => do
    match ← peek? with
    | some (.alias name) =>
      skip
      return .alias (← aliasNumber name)
    | _ =>
      let p ← properties
      match ← peek? with
      | some (.scalar text style) =>
        skip
        return .scalar p text style
      | some .flowSequenceStart =>
        skip
        return .sequence p.anchor (← flowItems true n)
      | some .flowMappingStart =>
        skip
        return .mapping p.anchor (← flowEntries true n)
      | some .blockSequenceStart =>
        if block then
          skip
          return .sequence p.anchor (← blockItems n)
        else bare p
      | some .blockMappingStart =>
        if block then
          skip
          return .mapping p.anchor (← blockEntries n)
        else bare p
      | some .blockEntry =>
        if indentless then return .sequence p.anchor (← plainItems n) else bare p
      | _ => bare p

/-- A node, or the empty one before any of the given tokens. -/
def optional (ends : List Token) (block indentless : Bool) : Nat → Reader Node
  | 0 => misplaced
  | n + 1 => do if ← nextIn ends then return .empty else node block indentless n

def blockItems : Nat → Reader (List Node)
  | 0 => misplaced
  | n + 1 => do
    if ← accept .blockEntry then
      let item ← optional [.blockEntry, .blockEnd] true false n
      return item :: (← blockItems n)
    else if ← accept .blockEnd then return []
    else misplaced

def plainItems : Nat → Reader (List Node)
  | 0 => misplaced
  | n + 1 => do
    if ← accept .blockEntry then
      let item ← optional [.blockEntry, .key, .value, .blockEnd] true false n
      return item :: (← plainItems n)
    else return []

def blockEntries : Nat → Reader (List (Node × Node))
  | 0 => misplaced
  | n + 1 => do
    if ← accept .key then
      let key ← optional [.key, .value, .blockEnd] true true n
      let value ← blockValue n
      return (key, value) :: (← blockEntries n)
    else if ← accept .blockEnd then return []
    else misplaced

def blockValue : Nat → Reader Node
  | 0 => misplaced
  | n + 1 => do
    if ← accept .value then optional [.key, .value, .blockEnd] true true n else return .empty

/-- The items of a flow sequence. A key among them is a mapping of one entry. -/
def flowItems (first : Bool) : Nat → Reader (List Node)
  | 0 => misplaced
  | n + 1 => do
    if ← accept .flowSequenceEnd then return []
    else if ← separate first then
      if ← accept .key then
        let key ← pairKey n
        let value ← flowValue .flowSequenceEnd n
        return .mapping none [(key, value)] :: (← flowItems false n)
      else if ← accept .flowSequenceEnd then return []
      else
        let item ← node false false n
        return item :: (← flowItems false n)
    else misplaced

/-- The key of a pair in a flow sequence. If there is none, the token that stands there is passed.
-/
def pairKey : Nat → Reader Node
  | 0 => misplaced
  | n + 1 => do
    if ← nextIn [.value, .flowEntry, .flowSequenceEnd] then
      skip
      return .empty
    else node false false n

/-- The entries of a flow mapping. A node without the mark of a key is a key without a value. -/
def flowEntries (first : Bool) : Nat → Reader (List (Node × Node))
  | 0 => misplaced
  | n + 1 => do
    if ← accept .flowMappingEnd then return []
    else if ← separate first then
      if ← accept .key then
        let key ← optional [.value, .flowEntry, .flowMappingEnd] false false n
        let value ← flowValue .flowMappingEnd n
        return (key, value) :: (← flowEntries false n)
      else if ← accept .flowMappingEnd then return []
      else
        let key ← node false false n
        return (key, .empty) :: (← flowEntries false n)
    else misplaced

def flowValue (close : Token) : Nat → Reader Node
  | 0 => misplaced
  | n + 1 => do
    if ← accept .value then optional [.flowEntry, close] false false n else return .empty

end

/-! ### Documents -/

def directives : List Token → List (Nat × Nat) × List (List Char × List Char)
  | .versionDirective major minor :: ts =>
    let (versions, handles) := directives ts
    ((major, minor) :: versions, handles)
  | .tagDirective handle start :: ts =>
    let (versions, handles) := directives ts
    (versions, (handle, start) :: handles)
  | _ => ([], [])

/-- Reads the directives up to the mark of the document. Version and handles are said at most once;
the version is 1.1 or 1.2. -/
def header : Reader Unit := do
  let r ← get
  let (versions, handles) := directives r.tokens
  if versions.length ≤ 1 && versions.all (fun v => v = (1, 1) || v = (1, 2))
      && decide (handles.map Prod.fst).Nodup then
    set { r with
      tokens := r.tokens.drop (versions.length + handles.length)
      handles := handles ++ usualHandles }
    if ← accept .documentStart then return () else misplaced
  else misplaced

def atDocumentEdge : Option Token → Bool
  | none | some .documentStart | some .documentEnd => true
  | some (.versionDirective ..) | some (.tagDirective ..) => true
  | _ => false

/-- The content of a document. Without a mark in front it cannot be empty; a stream without tokens
is an empty mapping. -/
def content (steps : Nat) : Reader Node := do
  match ← peek? with
  | none => return .mapping none []
  | some .documentStart | some (.versionDirective ..) | some (.tagDirective ..) =>
    header
    if atDocumentEdge (← peek?) then return .empty else node true false steps
  | some _ => node true false steps

end Reader

/-! ### Anchors -/

mutual

/-- The nodes with anchors, with the number of each, in the order in which they start. -/
def Node.anchored : Node → List (Nat × Node)
  | .alias _ => []
  | .scalar p text style => (p.anchor.map fun a => (a, .scalar p text style)).toList
  | .sequence anchor items =>
    (anchor.map fun a => (a, .sequence anchor items)).toList ++ anchoredItems items
  | .mapping anchor entries =>
    (anchor.map fun a => (a, .mapping anchor entries)).toList ++ anchoredEntries entries

def anchoredItems : List Node → List (Nat × Node)
  | [] => []
  | x :: xs => x.anchored ++ anchoredItems xs

def anchoredEntries : List (Node × Node) → List (Nat × Node)
  | [] => []
  | (k, v) :: es => k.anchored ++ v.anchored ++ anchoredEntries es

end

mutual

/-- The size of a node: a scalar or an alias counts once, a collection twice beside its parts. -/
def Node.size : Node → Nat
  | .alias _ | .scalar .. => 1
  | .sequence _ items => sizeOfItems items + 2
  | .mapping _ entries => sizeOfEntries entries + 2

def sizeOfItems : List Node → Nat
  | [] => 0
  | x :: xs => x.size + sizeOfItems xs

def sizeOfEntries : List (Node × Node) → Nat
  | [] => 0
  | (k, v) :: es => k.size + v.size + sizeOfEntries es

end

structure Document where
  root : Node
  anchored : List (Nat × Node)

def Document.ofTokens (tokens : List Token) : Except Fault Document := do
  let (root, r) ← (Reader.content (4 * tokens.length + 4)).run { tokens }
  if r.tokens.all (· = .documentEnd) then .ok ⟨root, root.anchored.reverse⟩
  else .error .severalDocuments

def Document.ofText (text : String) : Except Fault Document := do
  Document.ofTokens (← Token.ofText text)

end MapMarkup.Yaml
