import MapMarkup.Text.Bytes
import MapMarkup.Text.Fields

/-!
# Percent encoding

Text in a URL. Letters, digits and `-_.~` stand for themselves, every other byte is written as
`%` and two upper-case hexadecimal digits. A form field is read more widely: `+` is a space, and
a `%` that no two hexadecimal digits follow stands for itself. Where a form is written, spaces
become `+`, and letters, digits and `*-._` are what stands for itself.
-/

namespace MapMarkup.Text

def isUnreserved (b : UInt8) : Bool :=
  within 48 57 b || within 65 90 b || within 97 122 b || b = 45 || b = 46 || b = 95 || b = 126

def hexDigit (n : Nat) : Char :=
  Char.ofNat (if n < 10 then 48 + n else 55 + n)

def percentByte (b : UInt8) : List Char :=
  if isUnreserved b then [Char.ofNat b.toNat]
  else ['%', hexDigit (b.toNat / 16), hexDigit (b.toNat % 16)]

def percentChars (cs : List Char) : List Char :=
  (bytesOf cs).flatMap percentByte

def hexValue? (b : UInt8) : Option Nat :=
  if within 48 57 b then some (b.toNat - 48)
  else if within 65 70 b then some (b.toNat - 55)
  else if within 97 102 b then some (b.toNat - 87)
  else none

/-- The byte that `%` and two hexadecimal digits stand for. -/
def percentTriple? (a x y : UInt8) : Option UInt8 :=
  if a = 37 then
    match hexValue? x, hexValue? y with
    | some high, some low => some (UInt8.ofNat (16 * high + low))
    | _, _ => none
  else none

/-- Bytes with every well-formed `%XX` replaced by the byte it stands for. -/
def percentDecodeBytes : List UInt8 → List UInt8
  | [] => []
  | [a] => [a]
  | [a, b] => [a, b]
  | a :: x :: y :: tail =>
    match percentTriple? a x y with
    | some byte => byte :: percentDecodeBytes tail
    | none => a :: percentDecodeBytes (x :: y :: tail)

def formDecode (cs : List Char) : List Char :=
  ofBytes (percentDecodeBytes ((bytesOf cs).map fun b => if b = 43 then 32 else b))

/-- One `name=value` piece of a form; without `=` the value is empty. -/
def formPair (piece : List Char) : String × String :=
  let (name, value) := (splitFirst '=' piece).getD (piece, [])
  (String.ofList (formDecode name), String.ofList (formDecode value))

/-- The name and value pairs of a form, in order. Empty pieces between `&` are no pairs. -/
def formPairs (cs : List Char) : List (String × String) :=
  ((splitFields '&' cs).filter (· ≠ [])).map formPair

/-- Bytes that stand for themselves in a form that is written. -/
def isFormPlain (b : UInt8) : Bool :=
  within 48 57 b || within 65 90 b || within 97 122 b || b = 42 || b = 45 || b = 46 || b = 95

def formByte (b : UInt8) : List Char :=
  if b = 32 then ['+']
  else if isFormPlain b then [Char.ofNat b.toNat]
  else ['%', hexDigit (b.toNat / 16), hexDigit (b.toNat % 16)]

def formChars (cs : List Char) : List Char :=
  (bytesOf cs).flatMap formByte

/-- Name and value pairs written as a form. -/
def formOf (pairs : List (String × String)) : List Char :=
  joinFields '&' (pairs.map fun p => formChars p.1.toList ++ '=' :: formChars p.2.toList)

end MapMarkup.Text
