/-!
# JSON

Trees of values, and two ways to write them: on one line without blanks (`Tree.compact`), and with
one entry a line, indented by two spaces for each level (`Tree.pretty`). An empty array or object
is written as its two brackets in both.
-/

namespace ServiceBoundary.Json

/-- a value; a number is kept as it is written -/
inductive Tree where
  | null
  | bool (b : Bool)
  | number (literal : String)
  | string (s : String)
  | array (items : List Tree)
  | object (entries : List (String × Tree))

def Tree.ofWord (w : UInt64) : Tree := .number (toString w.toNat)

def Tree.ofTexts (l : List String) : Tree := .array (l.map .string)

/-- the four digits of a control character's escape -/
def controlDigits (n : Nat) : List Char := ['0', '0', Nat.digitChar (n / 16), Nat.digitChar (n % 16)]

/-- a character inside a string -/
def stringChar (c : Char) : List Char :=
  match c with
  | '"' => ['\\', '"']
  | '\\' => ['\\', '\\']
  | '\x08' => ['\\', 'b']
  | '\x0c' => ['\\', 'f']
  | '\n' => ['\\', 'n']
  | '\r' => ['\\', 'r']
  | '\t' => ['\\', 't']
  | c => if c.toNat < 0x20 then '\\' :: 'u' :: controlDigits c.toNat else [c]

/-- a string with its quotation marks -/
def string (s : String) : String := String.ofList ('"' :: s.toList.flatMap stringChar ++ ['"'])

namespace Tree

mutual

/-- the value on one line, without blanks -/
def compact : Tree → String
  | .null => "null"
  | .bool b => if b then "true" else "false"
  | .number literal => literal
  | .string s => Json.string s
  | .array items => "[" ++ ",".intercalate (compactItems items) ++ "]"
  | .object entries => "\x7b" ++ ",".intercalate (compactEntries entries) ++ "\x7d"

def compactItems : List Tree → List String
  | [] => []
  | v :: vs => v.compact :: compactItems vs

def compactEntries : List (String × Tree) → List String
  | [] => []
  | (k, v) :: es => (Json.string k ++ ":" ++ v.compact) :: compactEntries es

end

/-- the line break before an entry of some level -/
def lineBreak (level : Nat) : String := "\n" ++ String.ofList (List.replicate (2 * level) ' ')

/-- entries of some level between their brackets, one a line -/
def block (opening closing : String) (level : Nat) (entries : List String) : String :=
  if entries.isEmpty then opening ++ closing
  else opening ++ lineBreak (level + 1) ++ ("," ++ lineBreak (level + 1)).intercalate entries
    ++ lineBreak level ++ closing

mutual

/-- the value at some level, one entry a line -/
def prettyAt (level : Nat) : Tree → String
  | .null => "null"
  | .bool b => if b then "true" else "false"
  | .number literal => literal
  | .string s => Json.string s
  | .array items => block "[" "]" level (prettyItems (level + 1) items)
  | .object entries => block "\x7b" "\x7d" level (prettyEntries (level + 1) entries)

def prettyItems (level : Nat) : List Tree → List String
  | [] => []
  | v :: vs => v.prettyAt level :: prettyItems level vs

def prettyEntries (level : Nat) : List (String × Tree) → List String
  | [] => []
  | (k, v) :: es => (Json.string k ++ ": " ++ v.prettyAt level) :: prettyEntries level es

end

/-- the value, one entry a line -/
def pretty (v : Tree) : String := v.prettyAt 0

end Tree

end ServiceBoundary.Json
