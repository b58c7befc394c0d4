import ServiceBoundary.Template.Expr.OfTokens
import ServiceBoundary.Template.Piece

/-!
# Statements of templates

A template is a list of nodes, and some of them hold lists of nodes themselves, up to the statement
that closes them.

* `Node.ofTemplate`   the nodes of a template.
-/

namespace ServiceBoundary.Template

/-- a part of a template -/
inductive Node where
  | text (s : String)
  | output (e : Expr)
  | choice (test : Expr) (yes no : List Node)
  /-- what is done with each item of a value that meets a condition, and what if there is none -/
  | loop (name : String) (sequence : Expr) (condition : Option Expr) (body otherwise : List Node)
  | assign (name : String) (e : Expr)
  /-- a name for what a part of the template gives -/
  | capture (name : String) (body : List Node)
  /-- another template in this place; one that is not there may be left out -/
  | embed (e : Expr) (optional : Bool)

namespace Node

/-- names that cannot be given to values -/
def reserved : List String := ["true", "True", "false", "False", "none", "None", "loop", "self"]

/-- the name that a value is to have -/
def target (name : String) : Except RenderError String :=
  if reserved.contains name then .error .malformed else .ok name

/-- words that close what another statement opened, or part it -/
def closers : List String := ["else", "elif", "endif", "endfor", "endset"]

/-- whether the piece closes something, or parts it -/
def closes : Piece → Bool
  | .statement (.word name :: _) => closers.contains name
  | _ => false

/-- what was read, and no more pieces than there were -/
abbrev Read (α : Type) (ps : List Piece) : Type := Except RenderError (α × NoLonger ps)

/-- what a loop goes through, and on which condition -/
def loopHead (ts : List Token) : Except RenderError (Expr × Option Expr) := do
  let (sequence, ⟨rest, _⟩) ← Expr.read .disjunction ts
  match rest with
  | [] => return (sequence, none)
  | .word "if" :: rest => return (sequence, some (← Expr.ofTokens rest))
  | _ => throw .malformed

/-- the name of another template, and whether it may be missing -/
def embedHead (ts : List Token) : Except RenderError (Expr × Bool) := do
  let (e, ⟨rest, _⟩) ← Expr.readFirst ts
  match rest with
  | [] => return (e, false)
  | [.word "ignore", .word "missing"] => return (e, true)
  | _ => throw .malformed

/-- what follows a statement that consists of one word -/
def readWord (word : String) (ps : List Piece) : Except RenderError (Shorter ps) :=
  match uncons? ps with
  | some (.statement [.word name], r) => if name = word then return r else throw .malformed
  | _ => throw .malformed

mutual

/-- the nodes up to the first piece that closes something -/
def readAll (ps : List Piece) : Read (List Node) ps :=
  match uncons? ps with
  | none => return ([], ⟨ps, Nat.le_refl _⟩)
  | some (p, ⟨r, h⟩) =>
    if closes p then return ([], ⟨ps, Nat.le_refl _⟩)
    else do
      let (node, ⟨r₁, h₁⟩) ← readOne p r
      let (nodes, ⟨r₂, h₂⟩) ← readAll r₁
      return (node :: nodes, ⟨r₂, by omega⟩)
termination_by (ps.length, 0)

/-- the node that starts with a piece -/
def readOne (p : Piece) (ps : List Piece) : Read Node ps :=
  match p with
  | .text s => return (text s, ⟨ps, Nat.le_refl _⟩)
  | .output ts => return (output (← Expr.ofTokens ts), ⟨ps, Nat.le_refl _⟩)
  | .statement (.word "if" :: ts) => readChoice ts ps
  | .statement (.word "for" :: .word name :: .word "in" :: ts) => do
    let name ← target name
    let (sequence, condition) ← loopHead ts
    let (body, ⟨r₁, h₁⟩) ← readAll ps
    match uncons? r₁ with
    | some (.statement [.word "else"], ⟨r₂, h₂⟩) => do
      let (otherwise, ⟨r₃, h₃⟩) ← readAll r₂
      let ⟨r₄, h₄⟩ ← readWord "endfor" r₃
      return (loop name sequence condition body otherwise, ⟨r₄, by omega⟩)
    | _ => do
      let ⟨r₂, h₂⟩ ← readWord "endfor" r₁
      return (loop name sequence condition body [], ⟨r₂, by omega⟩)
  | .statement (.word "set" :: .word name :: .symbol .assign :: ts) => do
    return (assign (← target name) (← Expr.ofTokens ts), ⟨ps, Nat.le_refl _⟩)
  | .statement [.word "set", .word name] => do
    let name ← target name
    let (body, ⟨r₁, h₁⟩) ← readAll ps
    let ⟨r₂, h₂⟩ ← readWord "endset" r₁
    return (capture name body, ⟨r₂, by omega⟩)
  | .statement (.word "include" :: ts) => do
    let (e, optional) ← embedHead ts
    return (embed e optional, ⟨ps, Nat.le_refl _⟩)
  | .statement _ => throw .malformed
termination_by (ps.length, 2)

/-- the node of a condition, behind the word that starts it -/
def readChoice (ts : List Token) (ps : List Piece) : Read Node ps := do
  let test ← Expr.ofTokens ts
  let (yes, ⟨r₁, h₁⟩) ← readAll ps
  match uncons? r₁ with
  | some (.statement (.word "elif" :: ts), ⟨r₂, h₂⟩) => do
    let (no, ⟨r₃, h₃⟩) ← readChoice ts r₂
    return (choice test yes [no], ⟨r₃, by omega⟩)
  | some (.statement [.word "else"], ⟨r₂, h₂⟩) => do
    let (no, ⟨r₃, h₃⟩) ← readAll r₂
    let ⟨r₄, h₄⟩ ← readWord "endif" r₃
    return (choice test yes no, ⟨r₄, by omega⟩)
  | _ => do
    let ⟨r₂, h₂⟩ ← readWord "endif" r₁
    return (choice test yes [], ⟨r₂, by omega⟩)
termination_by (ps.length, 1)

end

def ofTemplate (source : String) : Except RenderError (List Node) := do
  let (nodes, ⟨rest, _⟩) ← readAll (← Piece.ofTemplate source)
  if rest.isEmpty then return nodes else throw .malformed

end Node

end ServiceBoundary.Template
