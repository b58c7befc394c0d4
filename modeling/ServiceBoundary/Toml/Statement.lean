import ServiceBoundary.Toml.Token

/-!
# Statements

A document is a list of statements, one a line: a table header, a header of one more table of a
list, or a key with its value. Line ends inside of brackets count as blanks.

The tokens are read from left to right. An opening bracket starts a new list of pieces, and its
closing bracket turns that list into one value, so at the end of a line all values between brackets
are complete, and a line, an item or an entry is read from a flat list.
-/

namespace ServiceBoundary.Toml

/-- one part of a key -/
inductive KeyPart where
  | bare (cs : List Char)
  | quoted (q : Quoted)
deriving DecidableEq, Repr

/-- a key; each part of the path names a table in the one before -/
structure Key where
  /-- all parts but the last -/
  path : List KeyPart
  /-- the last part -/
  last : KeyPart
deriving DecidableEq, Repr

/-- a value as written -/
inductive Expr where
  | word (cs : List Char)
  | quoted (q : Quoted)
  | array (items : List Expr)
  | table (entries : List (Key × Expr))

/-- a line with something on it -/
inductive Statement where
  /-- the entries that follow belong to this table -/
  | header (key : Key)
  /-- the entries that follow belong to a new last table of this list -/
  | listHeader (key : Key)
  | entry (key : Key) (value : Expr)

/-- a token, or a value that was read already -/
inductive Piece where
  | token (t : Token)
  | value (e : Expr)

namespace Piece

def isBlank : Piece → Bool
  | .token (.blank _) => true
  | _ => false

def isSpace : Piece → Bool
  | .token (.blank _) | .token .newline => true
  | _ => false

def isComma : Piece → Bool
  | .token .comma => true
  | _ => false

def isEquals : Piece → Bool
  | .token .equals => true
  | _ => false

end Piece

/-- the pieces without the blanks and line ends around them -/
def trimPieces (ps : List Piece) : List Piece :=
  ((ps.dropWhile Piece.isSpace).reverse.dropWhile Piece.isSpace).reverse

/-- the lists between commas; there is one more of them than there are commas -/
def splitCommas : List Piece → List (List Piece)
  | [] => [[]]
  | p :: ps =>
    match p.isComma, splitCommas ps with
    | true, parts => [] :: parts
    | false, part :: parts => (p :: part) :: parts
    | false, [] => [[p]]

/-- the lists between commas; a comma may stand behind the last of them -/
def commaSeparated (ps : List Piece) : List (List Piece) :=
  let parts := (splitCommas ps).map trimPieces
  if (parts.getLast?.map List.isEmpty).getD false then parts.dropLast else parts

/-- the parts of a key, with dots between them -/
def keyParts : List Piece → Except ReadError (List KeyPart)
  | [.token (.word cs)] => .ok [.bare cs]
  | [.token (.quoted q)] => .ok [.quoted q]
  | .token (.word cs) :: .token .dot :: ps => (keyParts ps).map (.bare cs :: ·)
  | .token (.quoted q) :: .token .dot :: ps => (keyParts ps).map (.quoted q :: ·)
  | _ => .error .statement

/-- a key; there may be blanks around the dots -/
def keyOf (ps : List Piece) : Except ReadError Key := do
  let parts ← keyParts (ps.filter fun p => !p.isBlank)
  match parts.getLast? with
  | some last => return { path := parts.dropLast, last }
  | none => throw .statement

/-- the characters of words and dots that follow each other, and the rest -/
def takeWord : List Piece → List Char × List Piece
  | .token (.word cs) :: ps => (cs ++ (takeWord ps).1, (takeWord ps).2)
  | .token .dot :: ps => ('.' :: (takeWord ps).1, (takeWord ps).2)
  | ps => ([], ps)

/-- four, two and two digits with dashes between them -/
def isDateShaped (cs : List Char) : Bool :=
  cs.length = 10 && cs.zipIdx.all fun (c, i) => if i = 4 ∨ i = 7 then c = '-' else c.isDigit

/-- One value. A date and a time may have a blank between them. -/
def exprOf (ps : List Piece) : Except ReadError Expr :=
  match ps with
  | [.value e] => .ok e
  | [.token (.quoted q)] => .ok (.quoted q)
  | ps =>
    match takeWord ps with
    | ([], _) => .error .statement
    | (cs, []) => .ok (.word cs)
    | (cs, .token (.blank [' ']) :: rest) =>
      match isDateShaped cs, takeWord rest with
      | true, (time, []) => .ok (.word (cs ++ ' ' :: time))
      | _, _ => .error .statement
    | _ => .error .statement

/-- a key, an equals sign and a value -/
def entryOf (ps : List Piece) : Except ReadError (Key × Expr) := do
  let key ← keyOf (trimPieces (ps.takeWhile fun p => !p.isEquals))
  let value ← exprOf (trimPieces ((ps.dropWhile fun p => !p.isEquals).drop 1))
  return (key, value)

/-- a header; the brackets of a list header stand side by side -/
def headerOf (ps : List Piece) : Except ReadError Statement :=
  match ps, (trimPieces ps).reverse with
  | .token .openSquare :: .token .openSquare :: _, .token .closeSquare :: .token .closeSquare :: _ =>
    (keyOf (((trimPieces ps).drop 2).dropLast.dropLast)).map .listHeader
  | .token .openSquare :: _, .token .closeSquare :: _ =>
    (keyOf (((trimPieces ps).drop 1).dropLast)).map .header
  | _, _ => .error .statement

/-- a line; an empty one has no statement -/
def lineOf (ps : List Piece) : Except ReadError (Option Statement) :=
  match trimPieces ps with
  | [] => .ok none
  | .token .openSquare :: ps => (headerOf (.token .openSquare :: ps)).map some
  | ps => (entryOf ps).map fun (key, value) => some (.entry key value)

/-- an opened bracket that is not closed yet -/
structure Frame where
  /-- whether it is a brace -/
  brace : Bool
  /-- the pieces behind it, the last one first -/
  pieces : List Piece := []

def Frame.close (f : Frame) : Except ReadError Expr :=
  let parts := commaSeparated f.pieces.reverse
  if f.brace then (parts.mapM entryOf).map .table else (parts.mapM exprOf).map .array

/-- how far the tokens are read -/
structure Progress where
  /-- the statements of complete lines, the last one first -/
  statements : List Statement := []
  /-- the pieces of the line outside of all brackets, the last one first -/
  line : List Piece := []
  /-- the open brackets, the innermost first -/
  frames : List Frame := []

namespace Progress

/-- one more piece, in the innermost bracket or on the line -/
def push (s : Progress) (p : Piece) : Progress :=
  match s.frames with
  | [] => { s with line := p :: s.line }
  | f :: fs => { s with frames := { f with pieces := p :: f.pieces } :: fs }

/-- whether the line is a header so far -/
def inHeader (s : Progress) : Bool :=
  match (s.line.reverse.dropWhile Piece.isBlank).head? with
  | some (.token .openSquare) => true
  | _ => false

/-- an opening bracket; the first one of a line starts a header -/
def opened (s : Progress) (brace : Bool) (t : Token) : Except ReadError Progress :=
  if s.inHeader || !brace && s.frames.isEmpty && s.line.all Piece.isBlank then .ok (s.push (.token t))
  else if 80 ≤ s.frames.length then .error .depth
  else .ok { s with frames := { brace } :: s.frames }

/-- a closing bracket -/
def closed (s : Progress) (brace : Bool) (t : Token) : Except ReadError Progress :=
  match s.frames with
  | [] => if s.inHeader then .ok (s.push (.token t)) else .error .brackets
  | f :: fs =>
    if f.brace = brace then do
      let e ← f.close
      return { s with frames := fs }.push (.value e)
    else .error .brackets

/-- the end of a line outside of all brackets -/
def endLine (s : Progress) : Except ReadError Progress := do
  match ← lineOf s.line.reverse with
  | some st => return { s with statements := st :: s.statements, line := [] }
  | none => return { s with line := [] }

def step (s : Progress) (t : Token) : Except ReadError Progress :=
  match t with
  | .openSquare => s.opened false t
  | .openBrace => s.opened true t
  | .closeSquare => s.closed false t
  | .closeBrace => s.closed true t
  | .newline => if s.frames.isEmpty then s.endLine else .ok (s.push (.token t))
  | t => .ok (s.push (.token t))

end Progress

def statements (ts : List Token) : Except ReadError (List Statement) := do
  let s ← ts.foldlM Progress.step {}
  if !s.frames.isEmpty then
    throw .brackets
  let s ← s.endLine
  return s.statements.reverse

end ServiceBoundary.Toml
