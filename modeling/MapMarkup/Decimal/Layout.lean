import MapMarkup.Decimal.Shortest

/-!
# Laying out a decimal

A decimal is written either positionally or with one digit before the point and a signed exponent.
A `Layout` holds the decisions; the two layouts this library writes are `plain`, for text that
people and URLs carry, and `json`, for numbers in JSON.
-/

namespace MapMarkup.Decimal

structure Layout where
  /-- Which of two equally near candidates the digits are taken from. -/
  tie : Tie
  /-- Whether a value whose leading digit has this exponent is written positionally. -/
  positional : Int → Bool
  wholeFraction : Bool

/-- Positional at every size, and a whole number has no point. -/
def Layout.plain : Layout where
  tie := .away
  positional := fun _ => true
  wholeFraction := false

/-- Positional from `0.00001` up to below `10 ^ 16`, and a whole number keeps `.0`. -/
def Layout.json : Layout where
  tie := .toEven
  positional := fun e => -5 ≤ e && e < 16
  wholeFraction := true

def digitChars (n : Nat) : List Char :=
  Nat.toDigits 10 n

/-- A decimal written positionally: the point after, inside or before its digits. -/
def positionalChars (wholeFraction : Bool) (d : Digits) : List Char :=
  let ds := digitChars d.digits
  if 0 ≤ d.exponent then
    ds ++ List.replicate d.exponent.toNat '0' ++ (if wholeFraction then ['.', '0'] else [])
  else
    let places := (-d.exponent).toNat
    if places < ds.length then
      ds.take (ds.length - places) ++ '.' :: ds.drop (ds.length - places)
    else
      '0' :: '.' :: (List.replicate (places - ds.length) '0' ++ ds)

/-- A decimal written with one digit before the point and a signed exponent. -/
def exponentChars (d : Digits) : List Char :=
  let ds := digitChars d.digits
  let e := d.exponent + ds.length - 1
  let mantissa := match ds with
    | lead :: next :: rest => lead :: '.' :: next :: rest
    | few => few
  mantissa ++ 'e' :: (if e < 0 then '-' else '+') :: digitChars e.natAbs

def Layout.magnitude (l : Layout) (x : Binary) : List Char :=
  let d := x.shortest l.tie
  if l.positional (d.exponent + (digitChars d.digits).length - 1) then
    positionalChars l.wholeFraction d
  else exponentChars d

def isNegative (x : Float) : Bool :=
  x.toBits >>> 63 = 1

def Layout.finite (l : Layout) (x : Float) : List Char :=
  (if isNegative x then ['-'] else []) ++ l.magnitude (Binary.ofFloat x)

/-- A float as text: the fewest digits that read back, never an exponent. -/
def text (x : Float) : String :=
  if x.isNaN then "NaN"
  else if x.isInf then (if isNegative x then "-inf" else "inf")
  else String.ofList (Layout.plain.finite x)

/-- A float as a JSON number; JSON has no number for NaN and the infinities. -/
def jsonNumber? (x : Float) : Option String :=
  if x.isNaN || x.isInf then none else some (String.ofList (Layout.json.finite x))

end MapMarkup.Decimal
