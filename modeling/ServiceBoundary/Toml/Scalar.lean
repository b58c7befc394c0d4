import ServiceBoundary.Toml.Error
import ServiceBoundary.Toml.Moment
import ServiceBoundary.Toml.Value

/-!
# Words that are values

Numbers, truth values and dates. Single underscores may stand between two digits. A decimal number
has no leading zeros; only decimal numbers have signs.
-/

namespace ServiceBoundary.Toml

/-- the digits of a row that may have single underscores between its digits -/
def digitRow (isDigit : Char → Bool) : List Char → Option (List Char)
  | [] => none
  | [c] => if isDigit c then some [c] else none
  | c :: '_' :: cs => if isDigit c then (digitRow isDigit cs).map (c :: ·) else none
  | c :: cs => if isDigit c then (digitRow isDigit cs).map (c :: ·) else none

/-- a row of decimal digits without leading zeros -/
def wholeRow (cs : List Char) : Option (List Char) :=
  (digitRow Char.isDigit cs).filter fun ds => ds.length = 1 || ds.head? ≠ some '0'

/-- the value of a digit; letters count from ten -/
def digitValue (c : Char) : Nat :=
  if c.isDigit then c.toNat - '0'.toNat else c.toLower.toNat - 'a'.toNat + 10

/-- the number of a row of digits in a base -/
def ofDigits (base : Nat) (ds : List Char) : Nat :=
  ds.foldl (fun n c => base * n + digitValue c) 0

/-- a digit of a base up to sixteen -/
def isDigitOf (base : Nat) (c : Char) : Bool :=
  (c.isDigit || ('a' ≤ c.toLower && c.toLower ≤ 'f')) && digitValue c < base

/-- a number in another base than ten, behind its mark -/
def based? : List Char → Option Nat
  | '0' :: 'x' :: cs => (digitRow (isDigitOf 16) cs).map (ofDigits 16)
  | '0' :: 'o' :: cs => (digitRow (isDigitOf 8) cs).map (ofDigits 8)
  | '0' :: 'b' :: cs => (digitRow (isDigitOf 2) cs).map (ofDigits 2)
  | _ => none

/-- the exponent behind its letter, or nothing -/
def exponent? : List Char → Option Int
  | [] => some 0
  | _ :: '-' :: cs => (digitRow Char.isDigit cs).map fun ds => -(ofDigits 10 ds : Int)
  | _ :: '+' :: cs => (digitRow Char.isDigit cs).map fun ds => (ofDigits 10 ds : Int)
  | _ :: cs => (digitRow Char.isDigit cs).map fun ds => (ofDigits 10 ds : Int)

/-- the digits behind the point, or nothing -/
def fraction? : List Char → Option (List Char)
  | [] => some []
  | _ :: cs => digitRow Char.isDigit cs

/-- a number with a point, an exponent or both, without its sign -/
def decimal? (cs : List Char) : Option Decimal := do
  let isMark (c : Char) : Bool := c = 'e' || c = 'E'
  let mantissa := cs.takeWhile fun c => !isMark c
  let whole ← wholeRow (mantissa.takeWhile (· ≠ '.'))
  let fraction ← fraction? (mantissa.dropWhile (· ≠ '.'))
  let exponent ← exponent? (cs.dropWhile fun c => !isMark c)
  return { digits := ofDigits 10 (whole ++ fraction), exponent := exponent - fraction.length }

/-- a number without its sign -/
def unsigned? (negative : Bool) (cs : List Char) : Option Value :=
  if cs = "inf".toList then some (.float (.infinite negative))
  else if cs = "nan".toList then some (.float .undefined)
  else match wholeRow cs with
    | some ds => some (.integer (if negative then -(ofDigits 10 ds : Int) else ofDigits 10 ds))
    | none => (decimal? cs).map fun d => .float (.finite negative d)

def scalar (cs : List Char) : Except ReadError Value :=
  if cs = "true".toList then .ok (.boolean true)
  else if cs = "false".toList then .ok (.boolean false)
  else if Moment.isMoment cs then .ok (.moment (String.ofList cs))
  else
    let number := match cs with
      | '-' :: rest => unsigned? true rest
      | '+' :: rest => unsigned? false rest
      | cs => ((based? cs).map fun n => .integer n) <|> unsigned? false cs
    match number with
    | some v => .ok v
    | none => .error .word

end ServiceBoundary.Toml
