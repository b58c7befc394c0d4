import ServiceBoundary.Decimal.Shortest

/-!
# Numbers as text

Two ways to write a binary64 number with the fewest digits. `positionalText` never uses an
exponent; `exponentialText` uses one for very large and very small numbers. Without an exponent a
whole number has the digit zero behind its point.
-/

namespace ServiceBoundary.Decimal

def chars (d : Decimal) : List Char := Nat.toDigits 10 d.digits

/-- the number with its point and without an exponent -/
def positional (d : Decimal) : List Char :=
  if 0 ≤ d.exponent then d.chars ++ List.replicate d.exponent.toNat '0' ++ ['.', '0']
  else if 0 < d.point then d.chars.take d.point.toNat ++ '.' :: d.chars.drop d.point.toNat
  else ['0', '.'] ++ List.replicate (-d.point).toNat '0' ++ d.chars

/-- the number with its point behind the first digit and an exponent -/
def exponential (d : Decimal) : List Char :=
  let rest := d.chars.drop 1
  d.chars.take 1 ++ (if rest.isEmpty then [] else '.' :: rest)
    ++ 'e' :: (toString (d.point - 1)).toList

def sign (x : Float) : String := if x.toBits.toNat < 0x8000000000000000 then "" else "-"

/-- a number that is neither infinite nor undefined, with its sign; `write` gives the digits -/
def signed (tie : Tie) (write : Decimal → List Char) (x : Float) : String :=
  let b := Binary.ofFloat x
  sign x ++ if b.mantissa = 0 then "0.0" else String.ofList (write (b.shortest tie))

def positionalText (x : Float) : String :=
  if x.isNaN then "NaN"
  else if x.isInf then sign x ++ "inf"
  else signed .up positional x

/-- the number, finite, with an exponent if it has more than sixteen digits before the point, or if
zeros behind the point would outnumber `zeros` -/
def exponentialText (tie : Tie) (zeros : Nat) (x : Float) : String :=
  signed tie (fun d => if -d.point ≤ zeros ∧ d.point ≤ 16 then d.positional else d.exponential) x

end ServiceBoundary.Decimal
