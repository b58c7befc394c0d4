import ServiceBoundary.Decimal.Notation
import ServiceBoundary.Json.Basic
import ServiceBoundary.Template.Error
import ServiceBoundary.Text.Quoted

/-!
# Values of templates

The values that expressions in templates have, with what all of them can do.

* `Value.isTrue`       whether a value counts as true;
* `Value.shown`        a value as output;
* `Value.json`         a value as a JSON document;
* `Value.order`        the order of values;
* `Value.same`         whether two values are equal;
* `Value.member`       a part that is named;
* `Value.item`         a part that is computed;
* `Value.items`        what a loop over a value goes through.
-/

namespace ServiceBoundary.Template

/-- a value of an expression -/
inductive Value where
  /-- nothing was found -/
  | undefined
  | none
  | bool (b : Bool)
  | int (n : Int)
  | float (x : Float)
  | text (s : String)
  | list (items : List Value)
  /-- keys with values, the keys in ascending order -/
  | map (entries : List (Value × Value))
  /-- a place in a loop: how many items come before it, how many there are, and its neighbours -/
  | loop (index : Nat) (length : Nat) (previous : Value) (next : Value)

namespace Value

/-- whether the value counts as true -/
def isTrue : Value → Bool
  | undefined => false
  | none => false
  | bool b => b
  | int n => n != 0
  | float x => x != 0.0
  | text s => !s.isEmpty
  | list items => !items.isEmpty
  | map entries => !entries.isEmpty
  | loop .. => true

/-! ## output -/

/-- the text of a truth value -/
def boolText (b : Bool) : String := if b then "True" else "False"

/-- how many zeros a number in a list may have behind its point -/
def listedZeros : Nat := 3

/-- how many zeros a number in a document may have behind its point -/
def documentZeros : Nat := 4

/-- a finite number with its exponent, or the name of one that is not finite -/
def listedFloat (x : Float) : String :=
  if x.isNaN || x.isInf then Decimal.positionalText x else Decimal.exponentialText .up listedZeros x

mutual

/-- the value as a part of a list or map -/
def listed : Value → String
  | undefined => "undefined"
  | none => "None"
  | bool b => boolText b
  | int n => toString n
  | float x => listedFloat x
  | text s => Text.quoted s
  | list items => "[" ++ ", ".intercalate (listedItems items) ++ "]"
  | map entries => "\x7b" ++ ", ".intercalate (listedEntries entries) ++ "\x7d"
  | loop index length _ _ => "<loop " ++ toString index ++ "/" ++ toString length ++ ">"

def listedItems : List Value → List String
  | [] => []
  | v :: vs => listed v :: listedItems vs

def listedEntries : List (Value × Value) → List String
  | [] => []
  | (k, v) :: es => (listed k ++ ": " ++ listed v) :: listedEntries es

end

/-- the value as output; what is undefined shows as nothing -/
def shown : Value → String
  | undefined => ""
  | float x => Decimal.positionalText x
  | text s => s
  | v => v.listed

/-- a number as a document; one that is not finite has no form there -/
def jsonFloat (x : Float) : Json.Tree :=
  if x.isNaN || x.isInf then .null else .number (Decimal.exponentialText .even documentZeros x)

/-- a key of a document -/
def jsonKey : Value → Except RenderError String
  | text s => .ok s
  | int n => .ok (toString n)
  | bool b => .ok (if b then "true" else "false")
  | float x => if x.isNaN || x.isInf then .error .operation
      else .ok (Decimal.exponentialText .even documentZeros x)
  | _ => .error .operation

mutual

/-- the value as a document -/
def json : Value → Except RenderError Json.Tree
  | undefined => .ok .null
  | none => .ok .null
  | bool b => .ok (.bool b)
  | int n => .ok (.number (toString n))
  | float x => .ok (jsonFloat x)
  | text s => .ok (.string s)
  | list items => (jsonItems items).map .array
  | map entries => (jsonEntries entries).map .object
  | loop .. => .error .operation

def jsonItems : List Value → Except RenderError (List Json.Tree)
  | [] => .ok []
  | v :: vs => do return (← json v) :: (← jsonItems vs)

def jsonEntries : List (Value × Value) → Except RenderError (List (String × Json.Tree))
  | [] => .ok []
  | (k, v) :: es => do return (← jsonKey k, ← json v) :: (← jsonEntries es)

end

/-! ## numbers -/

/-- integers are below this number, and not below its negative -/
def wideBound : Int := 0x80000000000000000000000000000000

/-- floats that stand for integers are below this number, and not below its negative -/
def narrowBound : Int := 0x8000000000000000

/-- the bit for the sign of a float -/
def signBit : Nat := 0x8000000000000000

/-- integers have 128 bits -/
def isWide (n : Int) : Bool := -wideBound ≤ n && n < wideBound

/-- the integer that a float is, if it is one -/
def wholeOf? (x : Float) : Option Int :=
  if x.isNaN || x.isInf then Option.none
  else
    let b := Decimal.Binary.ofFloat x
    let sign : Int := if x.toBits.toNat < signBit then 1 else -1
    if 0 ≤ b.exponent then some (sign * (b.mantissa * Nat.pow 2 b.exponent.toNat : Nat))
    else
      let unit := Nat.pow 2 (-b.exponent).toNat
      if b.mantissa % unit = 0 then some (sign * (b.mantissa / unit : Nat)) else Option.none

/-- the integer that a value stands for; a float must be one of 64 bits -/
def toInt? : Value → Option Int
  | bool b => some b.toNat
  | int n => some n
  | float x => (wholeOf? x).filter fun n => -narrowBound ≤ n && n < narrowBound
  | _ => Option.none

/-- the float that a value stands for, the nearest one to an integer -/
def toFloat? : Value → Option Float
  | bool b => some (if b then 1.0 else 0.0)
  | int n => some (Float.ofInt n)
  | float x => some x
  | _ => Option.none

/-- two numbers of one kind -/
inductive Numbers where
  | ints (a b : Int)
  | floats (a b : Float)

/-- two values as numbers of one kind; floats if one of them is a float -/
def numbers? : Value → Value → Option Numbers
  | float x, b => b.toFloat?.map (.floats x)
  | a, float y => a.toFloat?.map (.floats · y)
  | a, b =>
    match a.toInt?, b.toInt? with
    | some m, some n => if isWide m && isWide n then some (.ints m n) else Option.none
    | _, _ => Option.none

/-- the place of a float among all floats -/
def floatRank (x : Float) : Nat :=
  let bits := x.toBits.toNat
  if bits < signBit then signBit + bits else 2 * signBit - 1 - bits

/-! ## comparison -/

/-- the place of the kind of a value among all kinds -/
def kindRank : Value → Nat
  | undefined => 0
  | none => 1
  | bool _ => 2
  | int _ => 3
  | float _ => 3
  | text _ => 4
  | list _ => 5
  | map _ => 6
  | loop .. => 6

/-- the order of numbers; what are no numbers are equal here -/
def orderNumbers (a b : Value) : Ordering :=
  match numbers? a b with
  | some (.ints m n) => compare m n
  | some (.floats x y) => compare (floatRank x) (floatRank y)
  | Option.none => .eq

mutual

/-- the order of values: by kind, then by content -/
def order : Value → Value → Ordering
  | list xs, list ys => orderItems xs ys
  | map xs, map ys => orderEntries xs ys
  | text s, text t => compare s t
  | a, b => (compare a.kindRank b.kindRank).then (orderNumbers a b)

/-- the order of lists: the first difference decides -/
def orderItems : List Value → List Value → Ordering
  | [], [] => .eq
  | [], _ :: _ => .lt
  | _ :: _, [] => .gt
  | x :: xs, y :: ys => (order x y).then (orderItems xs ys)

def orderEntries : List (Value × Value) → List (Value × Value) → Ordering
  | [], [] => .eq
  | [], _ :: _ => .lt
  | _ :: _, [] => .gt
  | (j, x) :: xs, (k, y) :: ys => ((order j k).then (order x y)).then (orderEntries xs ys)

end

/-- whether two values that are no containers are equal; a truth value is a number here -/
def sameNumber (a b : Value) : Bool :=
  match a, b with
  | undefined, undefined => true
  | none, none => true
  | float x, float y => x == y
  | float x, b => b.toInt?.isSome && wholeOf? x == b.toInt?
  | a, float y => a.toInt?.isSome && wholeOf? y == a.toInt?
  | a, b => a.toInt?.isSome && a.toInt? == b.toInt?

mutual

/-- whether two values are equal -/
def same : Value → Value → Bool
  | list xs, list ys => sameItems xs ys
  | map xs, map ys => sameEntries xs ys
  | text s, text t => s == t
  | a, b => sameNumber a b

def sameItems : List Value → List Value → Bool
  | [], [] => true
  | x :: xs, y :: ys => same x y && sameItems xs ys
  | _, _ => false

def sameEntries : List (Value × Value) → List (Value × Value) → Bool
  | [], [] => true
  | (j, x) :: xs, (k, y) :: ys => same j k && same x y && sameEntries xs ys
  | _, _ => false

end

/-! ## parts -/

/-- the entries with one more, at its place; an entry with the same key makes room -/
def insertEntry (k v : Value) : List (Value × Value) → List (Value × Value)
  | [] => [(k, v)]
  | (j, w) :: es =>
    match order k j with
    | .lt => (k, v) :: (j, w) :: es
    | .eq => (k, v) :: es
    | .gt => (j, w) :: insertEntry k v es

/-- the map of these entries; of two entries with one key the last counts -/
def ofEntries (entries : List (Value × Value)) : Value :=
  map (entries.foldl (fun es e => insertEntry e.1 e.2 es) [])

def ofFields (fields : List (String × Value)) : Value :=
  ofEntries (fields.map fun f => (text f.1, f.2))

def ofWord (w : UInt64) : Value := int w.toNat

def ofTexts (texts : List String) : Value := list (texts.map text)

/-- what is known about a place in a loop -/
def loopPart (index length : Nat) (previous next : Value) : String → Option Value
  | "index0" => some (int index)
  | "index" => some (int (index + 1))
  | "length" => some (int length)
  | "revindex0" => some (int ((length : Int) - index - 1))
  | "revindex" => some (int ((length : Int) - index))
  | "first" => some (bool (index == 0))
  | "last" => some (bool (index + 1 == length))
  | "depth0" => some (int 0)
  | "depth" => some (int 1)
  | "previtem" => some previous
  | "nextitem" => some next
  | _ => Option.none

/-- the part of a map or loop under a key -/
def part? : Value → Value → Option Value
  | map entries, k => (entries.find? fun e => order e.1 k == .eq).map Prod.snd
  | loop index length previous next, text name => loopPart index length previous next name
  | _, _ => Option.none

/-- the place that a key means in a sequence; negative ones count from the end -/
def position? (length : Nat) (key : Value) : Option Nat := do
  let n ← key.toInt?
  if 0 ≤ n then some n.toNat
  else if -n ≤ length then some (length + n).toNat
  else Option.none

/-- the part of a value under a computed key -/
def item? (v key : Value) : Option Value :=
  match v with
  | list items => (position? items.length key).bind fun n => items[n]?
  | text s => (position? s.length key).bind fun n => (s.toList[n]?).map fun c => text c.toString
  | v => v.part? key

/-- what a search in a value gave; nothing can be searched for in what is undefined itself -/
def found (v : Value) (part : Option Value) : Except RenderError Value :=
  match part, v with
  | some part, _ => .ok part
  | Option.none, undefined => .error .undefined
  | Option.none, _ => .ok undefined

/-- the part of a value under a name -/
def member (v : Value) (name : String) : Except RenderError Value :=
  v.found (v.part? (text name))

/-- the part of a value under a computed key -/
def item (v key : Value) : Except RenderError Value := v.found (v.item? key)

/-- the part that a step of a path means: a place if it consists of digits, else a name -/
def step (v : Value) (part : String) : Except RenderError Value :=
  if !part.isEmpty && part.toList.all Char.isDigit then v.item (int (part.toNat?.getD 0))
  else v.member part

/-- the part at the end of a path of names and places with points between them -/
def atPath (v : Value) (path : String) : Except RenderError Value := (path.splitOn ".").foldlM step v

/-- what a loop over the value goes through: items, keys or characters -/
def items : Value → Except RenderError (List Value)
  | undefined => .ok []
  | none => .ok []
  | list vs => .ok vs
  | map entries => .ok (entries.map Prod.fst)
  | text s => .ok (s.toList.map fun c => text c.toString)
  | _ => .error .operation

/-- how much is in the value -/
def length? : Value → Option Nat
  | list vs => some vs.length
  | map entries => some entries.length
  | text s => some s.length
  | _ => Option.none

end Value

end ServiceBoundary.Template
