import ServiceBoundary.Template.Value

/-!
# Arithmetic of templates

The operators between values. Integers have 128 bits, and an operation whose result does not fit
fails; division of integers without `/` rounds so that the remainder is not negative. If one operand
is a float the other becomes one. Truth values count as 0 and 1.
-/

namespace ServiceBoundary.Template

/-- an operator between two values that are both computed -/
inductive Operator where
  | add
  | subtract
  | multiply
  | divide
  | divideWhole
  | remainder
  | power
  | concatenate
  | equal
  | unequal
  | less
  | atMost
  | greater
  | atLeast
  | isIn
  | isNotIn
deriving DecidableEq, Repr

namespace Value

/-- an integer that fits -/
def checked (n : Int) : Except RenderError Value :=
  if isWide n then .ok (int n) else .error .operation

/-- an operation on numbers -/
def arithmetic (onInts : Int → Int → Except RenderError Value) (onFloats : Float → Float → Float)
    (a b : Value) : Except RenderError Value :=
  match numbers? a b with
  | some (.ints m n) => onInts m n
  | some (.floats x y) => .ok (float (onFloats x y))
  | Option.none => .error .operation

/-- the float without what is behind its point -/
def truncate (x : Float) : Float := if x < 0.0 then x.ceil else x.floor

/-- the remainder of a division that rounds towards zero -/
def floatRemainder (x y : Float) : Float := x - y * truncate (x / y)

/-- the quotient whose remainder is not negative -/
def floatQuotient (x y : Float) : Float :=
  let q := truncate (x / y)
  if floatRemainder x y < 0.0 then (if y > 0.0 then q - 1.0 else q + 1.0) else q

/-- how often something is repeated -/
def times (v : Value) : Except RenderError Nat :=
  match v.toInt? with
  | some n => if 0 ≤ n then .ok n.toNat else .error .operation
  | Option.none => .error .operation

/-- the product; texts and lists are repeated -/
def multiply (a b : Value) : Except RenderError Value :=
  match a, b with
  | text s, n => do return text (String.join (List.replicate (← n.times) s))
  | n, text s => do return text (String.join (List.replicate (← n.times) s))
  | list vs, n => do return list (List.replicate (← n.times) vs).flatten
  | n, list vs => do return list (List.replicate (← n.times) vs).flatten
  | a, b => arithmetic (fun m n => checked (m * n)) (· * ·) a b

/-- the sum; texts and lists are put together -/
def add (a b : Value) : Except RenderError Value :=
  match a, b with
  | text s, text t => .ok (text (s ++ t))
  | list xs, list ys => .ok (list (xs ++ ys))
  | a, b => arithmetic (fun m n => checked (m + n)) (· + ·) a b

/-- the quotient as a float -/
def divide (a b : Value) : Except RenderError Value :=
  match a.toFloat?, b.toFloat? with
  | some x, some y => .ok (float (x / y))
  | _, _ => .error .operation

/-- the largest exponent of a power of integers -/
def exponentLimit : Int := 0x100000000

/-- a power of integers; the result must fit at every step -/
def intPower (m n : Int) : Except RenderError Value :=
  if n < 0 || exponentLimit ≤ n then .error .operation
  else if m.natAbs ≤ 1 then checked (Int.pow m (if n = 0 then 0 else 2 - n.toNat % 2))
  else if 128 ≤ n then .error .operation
  else checked (Int.pow m n.toNat)

/-- whether the first value holds the second -/
def holds (container v : Value) : Except RenderError Bool :=
  match container with
  | undefined => .ok false
  | text s => .ok ((s.splitOn v.shown).length != 1 || v.shown.isEmpty)
  | list vs => .ok (vs.any fun w => same w v)
  | map entries => .ok ((map entries).part? v).isSome
  | loop index length previous next => .ok ((loop index length previous next).part? v).isSome
  | _ => .error .operation

def operate (op : Operator) (a b : Value) : Except RenderError Value :=
  match op with
  | .add => add a b
  | .subtract => arithmetic (fun m n => checked (m - n)) (· - ·) a b
  | .multiply => multiply a b
  | .divide => divide a b
  | .divideWhole =>
    arithmetic (fun m n => if n = 0 then .error .operation else checked (m / n)) floatQuotient a b
  | .remainder =>
    arithmetic (fun m n => if n = 0 then .error .operation else checked (m % n)) floatRemainder a b
  | .power => arithmetic intPower Float.pow a b
  | .concatenate => .ok (text (a.shown ++ b.shown))
  | .equal => .ok (bool (same a b))
  | .unequal => .ok (bool (!same a b))
  | .less => .ok (bool (order a b == .lt))
  | .atMost => .ok (bool (order a b != .gt))
  | .greater => .ok (bool (order a b == .gt))
  | .atLeast => .ok (bool (order a b != .lt))
  | .isIn => (holds b a).map bool
  | .isNotIn => (holds b a).map fun h => bool !h

/-- the number with the other sign -/
def negate : Value → Except RenderError Value
  | int n => checked (-n)
  | float x => .ok (float (-x))
  | _ => .error .operation

end Value

end ServiceBoundary.Template
