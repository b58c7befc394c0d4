import ServiceBoundary.Decimal.Notation
import ServiceBoundary.Text.Quoted
import ServiceBoundary.Toml.Value

/-!
# Reading values as records

A schema says what a value must look like and what is made of it. The entries of a table are taken
in ascending order of their keys, so of several faults in a table the one with the least key is
reported, and a missing entry only if the others are in order. An array is read as a record too: its
items are the fields in their order.

* `Record.read`    reads a record; a strict one takes no other keys than its fields;
* `word`, `text`, `list`, `row`   read the values of fields.
-/

namespace ServiceBoundary.Toml

/-- why a value does not fit -/
inductive SchemaError where
  /-- a key that is none of the fields -/
  | unknownField (name : String) (known : List String)
  /-- a field that must be there is not -/
  | missingField (name : String)
  /-- a name that is none of the choices -/
  | unknownVariant (name : String) (known : List String)
  /-- a value of another kind than expected -/
  | wrongType (found expected : String)
  /-- a number of the right kind that is out of bounds -/
  | wrongValue (found expected : String)
  /-- too few items -/
  | tooShort (length : Nat) (expected : String)
  /-- a number beyond all bounds -/
  | numberRange
  /-- a value that cannot be read as a choice at all -/
  | noVariant
deriving DecidableEq, Repr

/-- the names that are expected -/
def expectedNames (known : List String) : String :=
  match known.map fun n => "`" ++ n ++ "`" with
  | [a] => "expected " ++ a
  | [a, b] => "expected " ++ a ++ " or " ++ b
  | names => "expected one of " ++ ", ".intercalate names

def SchemaError.message : SchemaError → String
  | .unknownField name known => "unknown field `" ++ name ++ "`, " ++ expectedNames known
  | .missingField name => "missing field `" ++ name ++ "`"
  | .unknownVariant name known => "unknown variant `" ++ name ++ "`, " ++ expectedNames known
  | .wrongType found expected => "invalid type: " ++ found ++ ", expected " ++ expected
  | .wrongValue found expected => "invalid value: " ++ found ++ ", expected " ++ expected
  | .tooShort length expected =>
    "invalid length " ++ toString length ++ ", expected " ++ expected
  | .numberRange => "number out of range"
  | .noVariant => "expected the name of a variant"

/-- the bound of unsigned machine words -/
def wordBound : Int := 0x10000000000000000

/-- the size of the largest numbers that a reader tells apart -/
def wideBound : Int := 0x100000000000000000000000000000000

/-- an integer that is not expected, or beyond all bounds -/
def integerMismatch (n : Int) (expected : String) : SchemaError :=
  let found := "integer `" ++ toString n ++ "`"
  if -(wordBound / 2) ≤ n ∧ n < wordBound then .wrongType found expected
  else if -(wideBound / 2) ≤ n ∧ n < wideBound / 2 then .wrongType (found ++ " as i128") expected
  else if 0 ≤ n ∧ n < wideBound then .wrongType (found ++ " as u128") expected
  else .numberRange

/-- the nearest number of a machine; none if it is too large -/
def Real.toFloat? : Real → Option Float
  | .finite negative magnitude =>
    let x := magnitude.toFloat
    if x.isInf then none else some (if negative then -x else x)
  | .infinite negative => some (if negative then -(1 / 0) else 1 / 0)
  | .undefined => some (0 / 0)

/-- a number that is not expected, or too large -/
def realMismatch (x : Real) (expected : String) : SchemaError :=
  match x.toFloat? with
  | some f => .wrongType ("floating point `" ++ Decimal.positionalText f ++ "`") expected
  | none => .numberRange

/-- a value that is not expected -/
def Value.mismatch (expected : String) : Value → SchemaError
  | .string s => .wrongType ("string " ++ Text.quoted s) expected
  | .integer n => integerMismatch n expected
  | .float x => realMismatch x expected
  | .boolean b => .wrongType (if b then "boolean `true`" else "boolean `false`") expected
  | .moment _ | .table _ => .wrongType "map" expected
  | .array _ => .wrongType "sequence" expected

/-! ## values of fields -/

def text : Value → Except SchemaError String
  | .string s => .ok s
  | v => .error (v.mismatch "a string")

def word : Value → Except SchemaError UInt64
  | .integer n =>
    if 0 ≤ n ∧ n < wordBound then .ok (UInt64.ofNat n.toNat)
    else if -(wordBound / 2) ≤ n ∧ n < 0 then .error (.wrongValue ("integer `" ++ toString n ++ "`") "u64")
    else .error (integerMismatch n "u64")
  | v => .error (v.mismatch "u64")

def list {α : Type} (item : Value → Except SchemaError α) : Value → Except SchemaError (List α)
  | .array items => items.mapM item
  | v => .error (v.mismatch "a sequence")

/-- a row of `n` machine words; more items than these are not looked at -/
def row (n : Nat) (v : Value) : Except SchemaError (Vector UInt64 n) := do
  let expected := "a tuple of size " ++ toString n
  match v with
  | .array items =>
    let ws ← (items.take n).mapM word
    if h : ws.length = n then
      return ⟨ws.toArray, by simpa using h⟩
    else
      throw (.tooShort ws.length expected)
  | v => throw (v.mismatch expected)

/-- a choice by its name; a table with the name as its only key and nothing in it says the same -/
def variant {α : Type} (choices : List (String × α)) (v : Value) : Except SchemaError α := do
  let choice (name : String) : Except SchemaError α :=
    match choices.lookup name with
    | some a => .ok a
    | none => .error (.unknownVariant name (choices.map Prod.fst))
  match v with
  | .string s => choice s
  | .table [(name, inner)] =>
    let a ← choice name
    match inner with
    | .array [] | .table [] => return a
    | _ => throw .noVariant
  | _ => throw .noVariant

/-! ## records -/

/-- a field of a record -/
structure Field (α : Type) where
  /-- its key -/
  name : String
  /-- whether it must be there -/
  required : Bool := false
  /-- puts the value of the field into the record -/
  put : Value → α → Except SchemaError α

/-- what a table must look like -/
structure Record (α : Type) where
  /-- what is expected, in errors -/
  title : String
  /-- the fields, in their order in an array -/
  fields : List (Field α)
  /-- whether other keys are errors -/
  strict : Bool := true
  /-- the record before any field is read -/
  base : α

/-- the entries of a table in ascending order of their keys -/
def sortedEntries {β : Type} (entries : List (String × β)) : List (String × β) :=
  entries.mergeSort fun a b => !(b.1 < a.1)

/-- the key of the only entry that a date has when it is read as a table -/
def momentKey : String := "$__toml_private_datetime"

mutual

/-- what is wrong with a value that nobody reads -/
def Value.fault? : Value → Option SchemaError
  | .integer n =>
    if -(wordBound / 2) ≤ n ∧ n < wordBound then none else some (integerMismatch n "anything at all")
  | .float x => if x.toFloat?.isNone then some .numberRange else none
  | .array items => (itemFaults items).head?
  | .table entries => ((sortedEntries (entryFaults entries)).filterMap Prod.snd).head?
  | .string _ | .boolean _ | .moment _ => none

def itemFaults : List Value → List SchemaError
  | [] => []
  | v :: vs => v.fault?.toList ++ itemFaults vs

def entryFaults : List (String × Value) → List (String × Option SchemaError)
  | [] => []
  | (k, v) :: es => (k, v.fault?) :: entryFaults es

end

namespace Record
variable {α : Type} (r : Record α)

def names : List String := r.fields.map Field.name

/-- one entry of a table -/
def enter (a : α) (entry : String × Value) : Except SchemaError α :=
  match r.fields.find? fun f => f.name == entry.1 with
  | some f => f.put entry.2 a
  | none =>
    if r.strict then .error (.unknownField entry.1 r.names)
    else match entry.2.fault? with
      | some e => .error e
      | none => .ok a

def readTable (entries : List (String × Value)) : Except SchemaError α := do
  let a ← (sortedEntries entries).foldlM r.enter r.base
  match r.fields.find? fun f => f.required && !(entries.map Prod.fst).contains f.name with
  | some f => throw (.missingField f.name)
  | none => return a

/-- the expected record, as an array -/
def arrayTitle : String :=
  r.title ++ " with " ++ toString r.fields.length
    ++ if r.fields.length = 1 then " element" else " elements"

/-- the record of an array; more items than fields are not looked at -/
def readArray (items : List Value) : Except SchemaError α := do
  let a ← (r.fields.zip items).foldlM (fun a fv => fv.1.put fv.2 a) r.base
  match (r.fields.drop items.length).findIdx? Field.required with
  | some i => throw (.tooShort (items.length + i) r.arrayTitle)
  | none => return a

def read (v : Value) : Except SchemaError α :=
  match v with
  | .table entries => r.readTable entries
  | .array items => r.readArray items
  | .moment s => r.readTable [(momentKey, .string s)]
  | v => .error (v.mismatch r.title)

end Record

end ServiceBoundary.Toml
