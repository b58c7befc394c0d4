import ServiceBoundary.Toml.Quotation
import ServiceBoundary.Toml.Statement

/-!
# Building the tables

The statements of a document fill its tables one after the other. A table can come into being in
three ways, which decide who may add to it: on the way of a header, as a table in a dotted key, or
by a header of its own. A header may open a table that was only named on the way of another one; a
dotted key adds to tables of dotted keys only. What stands between brackets, an array or an inline
table, is closed.
-/

namespace ServiceBoundary.Toml

/-- how a table came into being -/
inductive Origin where
  /-- on the way of a header -/
  | passed
  /-- in a dotted key -/
  | dotted
  /-- by a header, or as the document itself -/
  | header
deriving DecidableEq, Repr

/-- what a key holds while a document is read -/
inductive Node where
  /-- a value that nothing is added to -/
  | closed (v : Value)
  | table (origin : Origin) (entries : List (String × Node))
  /-- a list of tables from list headers: the last one, and those before it, newest first -/
  | tables (last : List (String × Node)) (earlier : List (List (String × Node)))

/-- the keys of a table with what they hold -/
abbrev Entries := List (String × Node)

mutual

def Node.value : Node → Value
  | .closed v => v
  | .table _ entries => .table (entryValues entries)
  | .tables last earlier => .array ((tableValues earlier).reverse ++ [.table (entryValues last)])

def entryValues : List (String × Node) → List (String × Value)
  | [] => []
  | (k, n) :: es => (k, n.value) :: entryValues es

def tableValues : List (List (String × Node)) → List Value
  | [] => []
  | es :: ts => .table (entryValues es) :: tableValues ts

end

/-- the entries with another node for one key; a new key comes last -/
def alter (k : String) (f : Option Node → Except ReadError Node) :
    (entries : Entries) → Except ReadError Entries
  | [] => return [(k, ← f none)]
  | (k', n) :: es => do
    if k' = k then
      return (k, ← f (some n)) :: es
    else
      return (k', n) :: (← alter k f es)

/-- Changes the table at the end of a path. Tables on the way that are not there are made. A path
of a dotted key must not pass a table that has a header. -/
def enter (dotted : Bool) (f : Origin → Entries → Except ReadError Entries) :
    (path : List String) → (origin : Origin) → (entries : Entries) → Except ReadError Entries
  | [], origin, es => f origin es
  | k :: path, _, es => alter k
    (fun
      | none => do
        let origin := if dotted then .dotted else .passed
        return .table origin (← enter dotted f path origin [])
      | some (.closed _) => throw (.duplicate k)
      | some (.tables last earlier) => return .tables (← enter dotted f path .header last) earlier
      | some (.table origin inner) => do
        if dotted ∧ origin = .header then
          throw (.duplicate k)
        return .table origin (← enter dotted f path origin inner))
    es

def openTable (path : List String) (last : String) (root : Entries) : Except ReadError Entries :=
  enter false (fun _ => alter last fun
    | none => return .table .header []
    | some (.table .passed es) => return .table .header es
    | some _ => throw (.duplicate last)) path .header root

def openListed (path : List String) (last : String) (root : Entries) : Except ReadError Entries :=
  enter false (fun _ => alter last fun
    | none => return .tables [] []
    | some (.tables es earlier) => return .tables [] (es :: earlier)
    | some _ => throw (.duplicate last)) path .header root

def addEntry (path : List String) (last : String) (v : Value) (table : Entries) :
    Except ReadError Entries :=
  enter true (fun origin es => do
    if !path.isEmpty && origin ≠ .dotted then
      throw (.duplicate last)
    alter last (fun
      | none => return .closed v
      | some _ => throw (.duplicate last)) es) path .header table

/-- the name of one part of a key -/
def KeyPart.name : KeyPart → Except ReadError String
  | .bare cs =>
    if cs.all fun c => c.isAlphanum || c = '_' || c = '-' then .ok (String.ofList cs)
    else .error .key
  | .quoted q =>
    match q.quotation with
    | .literal | .basic => q.text
    | .literalBlock | .basicBlock => .error .key

/-- the names of a key: those of the path, and the last one -/
def Key.names (k : Key) : Except ReadError (List String × String) := do
  let path ← k.path.mapM KeyPart.name
  let last ← k.last.name
  return (path, last)

mutual

/-- what an expression says -/
def Expr.value : Expr → Except ReadError Value
  | .word cs => scalar cs
  | .quoted q => q.text.map .string
  | .array items => (itemValues items).map .array
  | .table entries => (inlineEntries [] entries).map fun es => .table (entryValues es)

def itemValues : List Expr → Except ReadError (List Value)
  | [] => .ok []
  | e :: es => do
    let v ← e.value
    let vs ← itemValues es
    return v :: vs

/-- the entries of an inline table, added to those before -/
def inlineEntries (table : Entries) : List (Key × Expr) → Except ReadError Entries
  | [] => .ok table
  | (key, e) :: es => do
    let (path, last) ← key.names
    let v ← e.value
    inlineEntries (← addEntry path last v table) es

end

/-- the tables of a document so far, and the path of the header that entries belong to -/
structure Draft where
  /-- the document's own table -/
  root : Entries := []
  /-- the path of the last header -/
  here : List String := []

def Draft.add (d : Draft) : Statement → Except ReadError Draft
  | .header key => do
    let (path, last) ← key.names
    return { root := ← openTable path last d.root, here := path ++ [last] }
  | .listHeader key => do
    let (path, last) ← key.names
    return { root := ← openListed path last d.root, here := path ++ [last] }
  | .entry key e => do
    let (path, last) ← key.names
    let v ← e.value
    return { d with root := ← enter false (fun _ => addEntry path last v) d.here .header d.root }

def read (text : String) : Except ReadError (List (String × Value)) := do
  let cs := match text.toList with
    | '\ufeff' :: cs => cs
    | cs => cs
  let ts ← tokens cs
  let sts ← statements ts
  let d ← sts.foldlM Draft.add {}
  return entryValues d.root

end ServiceBoundary.Toml
