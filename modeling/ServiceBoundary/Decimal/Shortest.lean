import ServiceBoundary.Decimal.Basic

/-!
# The fewest digits

A binary64 number stands for all the numbers that round to it, an interval around it. Among the
decimals of the interval `shortest` finds one with the fewest digits, and of those the nearest. It
tries grids of one, two, … digits: if any point of a grid lies in the interval, so does one of the
two neighbours of the number on that grid. Seventeen digits are always enough.
-/

namespace ServiceBoundary.Decimal

/-- a finite positive binary64 number, `mantissa * 2 ^ exponent` -/
structure Binary where
  mantissa : Nat
  /-- the power of two -/
  exponent : Int
  /-- whether the gap to the number below is half the gap to the one above -/
  narrow : Bool
deriving DecidableEq, Repr

/-- the absolute value of a finite number -/
def Binary.ofFloat (x : Float) : Binary :=
  let bits := x.toBits.toNat
  let unit : Nat := 0x10000000000000
  let fraction : Nat := bits % unit
  let scale : Nat := bits / unit % 0x800
  if scale = 0 then ⟨fraction, -1074, false⟩
  else ⟨unit + fraction, (scale : Int) - 1075, fraction = 0 ∧ 1 < scale⟩

/-- which of two decimals that are equally near is taken -/
inductive Tie where
  /-- the larger -/
  | up
  /-- the one with an even last digit -/
  | even
deriving DecidableEq, Repr

/-- compares `a * 10 ^ i` with `b * 2 ^ j` -/
def compareScaled (a : Nat) (i : Int) (b : Nat) (j : Int) : Ordering :=
  compare (a * Nat.pow 10 i.toNat * Nat.pow 2 (-j).toNat)
    (b * Nat.pow 2 j.toNat * Nat.pow 10 (-i).toNat)

/-- whether the decimal rounds to the number; the ends of the interval do if the mantissa is even -/
def Binary.holds (x : Binary) (d : Decimal) : Bool :=
  let low := 4 * x.mantissa - if x.narrow then 1 else 2
  let high := 4 * x.mantissa + 2
  let closed := x.mantissa % 2 = 0
  let below := compareScaled d.digits d.exponent low (x.exponent - 2)
  let above := compareScaled d.digits d.exponent high (x.exponent - 2)
  (below = .gt || below = .eq && closed) && (above = .lt || above = .eq && closed)

/-- the whole part of the number in units of `10 ^ i` -/
def Binary.units (x : Binary) (i : Int) : Nat :=
  x.mantissa * Nat.pow 2 x.exponent.toNat * Nat.pow 10 (-i).toNat
    / (Nat.pow 2 (-x.exponent).toNat * Nat.pow 10 i.toNat)

/-- The least `k` such that the number is below `10 ^ k`. No number is below `10 ^ -324`. -/
def Binary.scale (x : Binary) : Int := (Nat.toDigits 10 (x.units (-350))).length - 350

/-- The neighbour on the grid of `n` digits that rounds to the number, the nearer one of two. The
upper neighbour may be the power of ten above all numbers of `n` digits. -/
def Binary.onGrid? (x : Binary) (tie : Tie) (n : Nat) : Option Decimal :=
  let i := x.scale - n
  let units := x.units i
  let low : Decimal := ⟨units, i⟩
  let high : Decimal := if units + 1 = Nat.pow 10 n then ⟨1, x.scale⟩ else ⟨units + 1, i⟩
  match x.holds low, x.holds high with
  | false, false => none
  | true, false => some low
  | false, true => some high
  | true, true =>
    -- the middle between them against the number, both doubled
    match compareScaled (2 * units + 1) i (2 * x.mantissa) x.exponent, tie with
    | .gt, _ => some low
    | .lt, _ => some high
    | .eq, .up => some high
    | .eq, .even => some (if units % 2 = 0 then low else high)

/-- the decimal with the fewest digits that rounds to the number -/
def Binary.shortest (x : Binary) (tie : Tie) : Decimal :=
  ((List.range' 1 17).findSome? (x.onGrid? tie)).getD ⟨x.units (x.scale - 17), x.scale - 17⟩

end ServiceBoundary.Decimal
