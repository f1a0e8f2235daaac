import MapMarkup.Text.Bytes

/-!
# Text for terminals

A text meant for a terminal may hold control sequences: an escape character and what belongs to it.
`strong` and `heading` set a text off with such sequences. `withoutControls` is the text that is
left when its reader is no terminal: it drops the sequences and all other control characters but
blanks.

A blank shows inside most sequences too. It interrupts the sequence: what follows shows as well, and
the first character that cannot show goes on with the sequence. A character outside of ASCII that
shows ends the sequence for good.
-/

namespace MapMarkup.Text

/-! ### Writing sequences -/

def escapeCharacter : Char := Char.ofNat 0x1B

/-- The control sequence that switches to a rendition: 0 is the plain one. -/
def rendition (n : Nat) : String :=
  escapeCharacter.toString ++ "[" ++ toString n ++ "m"

def strong (text : String) : String :=
  rendition 1 ++ text ++ rendition 0

def heading (text : String) : String :=
  rendition 1 ++ rendition 4 ++ text ++ rendition 0

/-! ### Dropping sequences -/

/-- Where a text stands in a control sequence. -/
inductive ControlState where
  /-- Outside of any. -/
  | plain
  /-- After the escape character. -/
  | escape
  /-- After the escape character and marks. -/
  | marks
  /-- After `[`: in parameters, which a letter ends. -/
  | parameters
  /-- After `]`: in a text that the bell ends. -/
  | title
  /-- After `P`, which starts a device text. -/
  | device
  /-- In the parameters of a device text. -/
  | deviceParameters
  /-- In the marks of a device text. -/
  | deviceMarks
  /-- In a text that the byte `9C` ends. -/
  | string
deriving DecidableEq

def isBlankControl (c : Char) : Bool :=
  c = '\t' || c = '\n' || c = '\r' || c = Char.ofNat 0xC

def isVisible (c : Char) : Bool :=
  isBlankControl c || (' ' ≤ c && c ≠ Char.ofNat 0x7F)

/-- The state after an ASCII character that neither cancels a sequence nor starts one. -/
def ControlState.step (c : Char) : ControlState → ControlState
  | plain => plain
  | escape =>
    if c < ' ' || c = Char.ofNat 0x7F then escape
    else if c ≤ '/' then marks
    else if c = '[' then parameters
    else if c = ']' then title
    else if c = 'P' then device
    else if c = 'X' || c = '^' || c = '_' then string
    else plain
  | marks => if '0' ≤ c && c ≤ '~' then plain else marks
  | parameters => if '@' ≤ c && c ≤ '~' then plain else parameters
  | title => if c = Char.ofNat 7 then plain else title
  | device =>
    if c < ' ' || c = Char.ofNat 0x7F then device
    else if c ≤ '/' then deviceMarks
    else if c ≤ '?' then deviceParameters
    else string
  | deviceParameters =>
    if c < ' ' || c = Char.ofNat 0x7F then deviceParameters
    else if c ≤ '/' then deviceMarks
    else if c ≤ ';' then deviceParameters
    else string
  | deviceMarks => if '0' ≤ c && c ≤ '~' then string else deviceMarks
  | string => string

def ControlState.yieldsToBlank : ControlState → Bool
  | plain | escape | marks | parameters => true
  | title | device | deviceParameters | deviceMarks | string => false

/-- The state after a character that goes on with the sequence, and whether the character shows. -/
def ControlState.next (s : ControlState) (c : Char) : ControlState × Bool :=
  if c = escapeCharacter then (escape, false)
  else if c.toNat = 0x18 || c.toNat = 0x1A then (plain, false)
  else if s = plain then (plain, isVisible c)
  else if 0x80 ≤ c.toNat then
    (if s = string && (bytesOf [c]).contains 0x9C then plain else s, false)
  else if isBlankControl c && s.yieldsToBlank then (s, true)
  else (s.step c, false)

/-- The characters that show, from a state on. The flag says that the character before showed. -/
def shownFrom : ControlState → Bool → List Char → List Char
  | _, _, [] => []
  | s, showing, c :: cs =>
    if showing && isVisible c then c :: shownFrom (if c.toNat < 0x80 then s else .plain) true cs
    else
      let (s, shows) := s.next c
      if shows then c :: shownFrom s true cs else shownFrom s false cs

/-- The text without control sequences and control characters. -/
def withoutControls (text : String) : String :=
  String.ofList (shownFrom .plain false text.toList)

end MapMarkup.Text
