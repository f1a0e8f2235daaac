/-!
# Reading numbers

The grammar of numbers in requests and catalogs, and the values they stand for.

A float is an optional sign and either one of the words `inf`, `infinity`, `nan` in any case, or
digits with at most one point, at least one digit in all, and an optional exponent. Its value is
correctly rounded. A natural number is an optional plus sign and digits.
-/

namespace MapMarkup.Decimal

def digitValue (c : Char) : Nat :=
  c.toNat - '0'.toNat

def digitsValue (ds : List Char) : Nat :=
  ds.foldl (fun n c => 10 * n + digitValue c) 0

/-- The float nearest to `m * 10 ^ e`. Far outside the range of floats the result is known without
computing the power. -/
def nearestFloat (m : Nat) (e : Int) : Float :=
  let size := e + (Nat.toDigits 10 m).length
  if m = 0 then 0.0
  else if 400 < size then 1.0 / 0.0
  else if size < -400 then 0.0
  else Float.ofScientific m (e < 0) e.natAbs

/-- An exponent: a mark, an optional sign, at least one digit. No text at all is exponent zero. -/
def readExponent : List Char → Option Int
  | [] => some 0
  | mark :: rest =>
    if mark = 'e' || mark = 'E' then
      let signed : Bool × List Char := match rest with
        | '-' :: ds => (true, ds)
        | '+' :: ds => (false, ds)
        | ds => (false, ds)
      if signed.2 ≠ [] && signed.2.all Char.isDigit then
        some (if signed.1 then -(digitsValue signed.2 : Int) else digitsValue signed.2)
      else none
    else none

def readUnsigned (cs : List Char) : Option Float :=
  let whole := cs.takeWhile Char.isDigit
  let rest := cs.dropWhile Char.isDigit
  let fraction := match rest with
    | '.' :: r => r.takeWhile Char.isDigit
    | _ => []
  let rest := match rest with
    | '.' :: r => r.dropWhile Char.isDigit
    | r => r
  if whole = [] && fraction = [] then none
  else
    (readExponent rest).map fun e =>
      nearestFloat (digitsValue (whole ++ fraction)) (e - fraction.length)

def readMagnitude (cs : List Char) : Option Float :=
  let word := cs.map Char.toLower
  if word = ['i', 'n', 'f'] || word = ['i', 'n', 'f', 'i', 'n', 'i', 't', 'y'] then some (1.0 / 0.0)
  else if word = ['n', 'a', 'n'] then some (0.0 / 0.0)
  else readUnsigned cs

def readFloat : List Char → Option Float
  | '-' :: cs => (readMagnitude cs).map fun x => -x
  | '+' :: cs => readMagnitude cs
  | cs => readMagnitude cs

def readNat (cs : List Char) : Option Nat :=
  let ds := match cs with
    | '+' :: r => r
    | r => r
  if ds ≠ [] && ds.all Char.isDigit then some (digitsValue ds) else none

end MapMarkup.Decimal
