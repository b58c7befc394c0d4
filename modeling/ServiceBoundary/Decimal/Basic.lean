/-!
# Decimal numbers

A decimal number is a row of digits with a power of ten, so every text of digits, point and
exponent has its exact value. `toFloat` is the nearest binary64 number.
-/

namespace ServiceBoundary

/-- the number `digits * 10 ^ exponent` -/
structure Decimal where
  /-- the digits, read as a whole number -/
  digits : Nat
  /-- the power of ten -/
  exponent : Int
deriving DecidableEq, Repr

namespace Decimal

/-- how many digits the number is written with; one for zero -/
def width (d : Decimal) : Nat := (Nat.toDigits 10 d.digits).length

/-- the place of the point, counted from before the first digit -/
def point (d : Decimal) : Int := d.width + d.exponent

/-- The nearest binary64 number. Every such number but infinity is below `10 ^ 309`, and what is
below `10 ^ -400` is nearest to zero, so no larger power of ten is ever computed. -/
def toFloat (d : Decimal) : Float :=
  if d.digits = 0 ∨ d.point < -400 then 0
  else if 400 < d.point then 1 / 0
  else Float.ofScientific d.digits (d.exponent < 0) d.exponent.natAbs

end Decimal

end ServiceBoundary
