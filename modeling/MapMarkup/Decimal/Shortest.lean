/-!
# The fewest digits that read back

A binary64 value stands for an interval of reals: those that round to it, ends included exactly
when its mantissa is even. `shortest` picks a decimal from that interval with as few digits as the
interval allows, and of several such decimals the one nearest to the value. All arithmetic is
exact, on naturals.

Below a power of two the neighbour is half as far away as above it, so the interval is lopsided
there; `Binary.narrowBelow` marks these values.
-/

namespace MapMarkup.Decimal

/-- The magnitude of a finite value, `mantissa * 2 ^ exponent`. -/
structure Binary where
  mantissa : Nat
  exponent : Int
  /-- The gap to the value below is half the gap to the value above. -/
  narrowBelow : Bool
deriving Repr, DecidableEq

/-- The magnitude that the bits of a finite value stand for; the sign bit is not looked at. -/
def Binary.ofBits (bits : UInt64) : Binary :=
  let biased := ((bits >>> 52) &&& 0x7FF).toNat
  let fraction := (bits &&& 0xFFFFFFFFFFFFF).toNat
  if biased = 0 then ⟨fraction, -1074, false⟩
  else ⟨Nat.pow 2 52 + fraction, (biased : Int) - 1075, fraction = 0 && biased > 1⟩

def Binary.ofFloat (x : Float) : Binary :=
  Binary.ofBits x.toBits

/-- The decimal `digits * 10 ^ exponent`. -/
structure Digits where
  digits : Nat
  exponent : Int
deriving Repr, DecidableEq

/-- Which of two equally near decimals is taken. -/
inductive Tie where
  | toEven
  | away
deriving Repr, DecidableEq

/-- A power of two with a natural exponent; 1 for an exponent below zero. -/
def twos (e : Int) : Nat := Nat.pow 2 e.toNat

/-- A power of ten with a natural exponent; 1 for an exponent below zero. -/
def tens (e : Int) : Nat := Nat.pow 10 e.toNat

/-- The exact order of `a * 10 ^ i` and `n * 2 ^ j`. -/
def compareScaled (a : Nat) (i : Int) (n : Nat) (j : Int) : Ordering :=
  compare (a * tens i * twos (-j)) (n * twos j * tens (-i))

/-- The decimal lies among the reals that round to `x`. Both ends are counted in quarters of the
unit in the last place, so that halfway below a narrow gap is a whole number too. -/
def Binary.readsBack (x : Binary) (d : Digits) : Bool :=
  let low := if x.narrowBelow then 4 * x.mantissa - 1 else 4 * x.mantissa - 2
  let high := 4 * x.mantissa + 2
  let ends := x.mantissa % 2 = 0
  let atLow := compareScaled d.digits d.exponent low (x.exponent - 2)
  let atHigh := compareScaled d.digits d.exponent high (x.exponent - 2)
  (atLow = .gt || (ends && atLow = .eq)) && (atHigh = .lt || (ends && atHigh = .eq))

/-- The least `k` with `x < 10 ^ k`, for a nonzero `x`. The binary logarithm gives a lower
estimate; at most two steps up are left. -/
def Binary.scale (x : Binary) : Int :=
  let estimate := Int.fdiv (((Nat.log2 x.mantissa : Int) + x.exponent) * 30103) 100000
  let below (k : Int) : Bool := compareScaled 1 k x.mantissa x.exponent = .gt
  if below estimate then estimate
  else if below (estimate + 1) then estimate + 1
  else estimate + 2

/-- Of the two neighbours of `x` among the multiples of `10 ^ grid`, the nearer one that reads
back, if either does. -/
def Binary.onGrid? (x : Binary) (tie : Tie) (grid : Int) : Option Digits :=
  let num := x.mantissa * twos x.exponent * tens (-grid)
  let den := twos (-x.exponent) * tens grid
  let below : Digits := ⟨num / den, grid⟩
  let above : Digits := ⟨num / den + 1, grid⟩
  match x.readsBack below, x.readsBack above with
  | true, false => some below
  | false, true => some above
  | false, false => none
  | true, true =>
    match compare (2 * num) ((2 * (num / den) + 1) * den), tie with
    | .lt, _ => some below
    | .gt, _ => some above
    | .eq, .away => some above
    | .eq, .toEven => some (if (num / den) % 2 = 0 then below else above)

/-- The decimal without trailing zeros in its digits. -/
def Digits.normalize (d : Digits) : Digits :=
  if h : d.digits ≠ 0 ∧ d.digits % 10 = 0 then
    Digits.normalize ⟨d.digits / 10, d.exponent + 1⟩
  else d
termination_by d.digits
decreasing_by exact Nat.div_lt_self (Nat.pos_of_ne_zero h.1) (by decide)

def Binary.exact (x : Binary) : Digits :=
  ⟨x.mantissa * twos x.exponent * Nat.pow 5 (-x.exponent).toNat, -((-x.exponent).toNat : Int)⟩

/-- The fewest digits that read back to `x`; on the first grid that holds a point of the interval,
the point nearest to `x`. Seventeen digits are always enough. -/
def Binary.shortest (x : Binary) (tie : Tie) : Digits :=
  if x.mantissa = 0 then ⟨0, 0⟩
  else
    let grids := (List.range 17).map fun n => x.scale - (n + 1 : Nat)
    ((grids.findSome? (x.onGrid? tie)).getD x.exact).normalize

end MapMarkup.Decimal
