/-!
# Text as bytes

The UTF-8 bytes of a text, and the text that any bytes stand for. Reading never fails: what is no
UTF-8 becomes U+FFFD, one for each longest stretch that could still have begun a character.
-/

namespace MapMarkup.Text

def bytesOf (cs : List Char) : List UInt8 :=
  cs.flatMap String.utf8EncodeChar

def replacement : Char := Char.ofNat 0xFFFD

def within (low high : UInt8) (b : UInt8) : Bool :=
  low ≤ b && b ≤ high

/-- The shape of a character by its first byte: how many bytes follow it, the range of the first of
these, and the bits the first byte adds to the code point. The range keeps overlong forms,
surrogates and code points past the last one out. -/
def leadByte (b : UInt8) : Option (Nat × UInt8 × UInt8 × Nat) :=
  if b < 0x80 then some (0, 0, 0, b.toNat)
  else if within 0xC2 0xDF b then some (1, 0x80, 0xBF, b.toNat - 0xC0)
  else if b = 0xE0 then some (2, 0xA0, 0xBF, 0)
  else if b = 0xED then some (2, 0x80, 0x9F, 0xD)
  else if within 0xE1 0xEF b then some (2, 0x80, 0xBF, b.toNat - 0xE0)
  else if b = 0xF0 then some (3, 0x90, 0xBF, 0)
  else if within 0xF1 0xF3 b then some (3, 0x80, 0xBF, b.toNat - 0xF0)
  else if b = 0xF4 then some (3, 0x80, 0x8F, 4)
  else none

/-- The code point after `owed` more bytes, the first of them in the given range, and how many of
the bytes were read; no code point when the bytes break off. -/
def continueChar (owed : Nat) (low high : UInt8) (code : Nat) (bytes : List UInt8) :
    Option Nat × Nat :=
  match owed, bytes with
  | 0, _ => (some code, 0)
  | _ + 1, [] => (none, 0)
  | owed + 1, b :: rest =>
    if within low high b then
      let (code?, read) := continueChar owed 0x80 0xBF (64 * code + (b.toNat - 0x80)) rest
      (code?, read + 1)
    else (none, 0)

/-- The first character of a nonempty row of bytes and how many bytes after the first it takes. -/
def firstChar (b : UInt8) (rest : List UInt8) : Char × Nat :=
  match leadByte b with
  | none => (replacement, 0)
  | some (owed, low, high, code) =>
    let (code?, read) := continueChar owed low high code rest
    ((code?.map Char.ofNat).getD replacement, read)

def ofBytes : List UInt8 → List Char
  | [] => []
  | b :: rest =>
    let (c, read) := firstChar b rest
    c :: ofBytes (rest.drop read)
termination_by bytes => bytes.length
decreasing_by simp only [List.length_cons, List.length_drop]; omega

end MapMarkup.Text
