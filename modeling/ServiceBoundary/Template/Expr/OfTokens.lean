import ServiceBoundary.Shorter
import ServiceBoundary.Template.Expr.Basic
import ServiceBoundary.Template.Token

/-!
# Reading expressions

Operators bind on levels: on each level the operands are expressions of the next tighter one, and
operators of one level are taken from left to right. Each step gives back the tokens that are left
together with the proof that there are fewer of them.

* `Expr.readFirst`   the expression at the start of a list of tokens;
* `Expr.read`        the same for the operators of a level and tighter ones;
* `Expr.ofTokens`    the expression that a list of tokens is.
-/

namespace ServiceBoundary.Template.Expr

/-! ## levels -/

/-- how tightly an operator between two operands binds, the loosest level first -/
inductive Tightness where
  | disjunction
  | conjunction
  | comparison
  | sum
  | concatenation
  | product
  | power
deriving DecidableEq, Repr

namespace Tightness

/-- the place of the level, counted from the tightest one; `not` is at the place that is left out -/
@[simp] def rank : Tightness → Nat
  | disjunction => 7
  | conjunction => 6
  | comparison => 4
  | sum => 3
  | concatenation => 2
  | product => 1
  | power => 0

/-- the mark of an operator on this level -/
def ofSymbol? : Tightness → Symbol → Option Operator
  | comparison, .equal => some .equal
  | comparison, .unequal => some .unequal
  | comparison, .less => some .less
  | comparison, .atMost => some .atMost
  | comparison, .greater => some .greater
  | comparison, .atLeast => some .atLeast
  | sum, .plus => some .add
  | sum, .minus => some .subtract
  | concatenation, .tilde => some .concatenate
  | product, .star => some .multiply
  | product, .slash => some .divide
  | product, .slashSlash => some .divideWhole
  | product, .percent => some .remainder
  | power, .starStar => some .power
  | _, _ => none

/-- the operator of this level that the tokens start with, and the tokens behind it -/
def operator? (l : Tightness) (ts : List Token) : Option ((Expr → Expr → Expr) × Shorter ts) :=
  match uncons? ts with
  | some (.symbol s, r) => (l.ofSymbol? s).map fun op => (operation op, r)
  | some (.word name, ⟨r, h⟩) =>
    match l, name with
    | disjunction, "or" => some (either, ⟨r, h⟩)
    | conjunction, "and" => some (both, ⟨r, h⟩)
    | comparison, "in" => some (operation .isIn, ⟨r, h⟩)
    | comparison, "not" =>
      match uncons? r with
      | some (.word "in", ⟨r', h'⟩) => some (operation .isNotIn, ⟨r', Nat.lt_trans h' h⟩)
      | _ => none
    | _, _ => none
  | _ => none

end Tightness

/-! ## reading -/

/-- what was read, and fewer tokens than there were -/
abbrev Read (α : Type) (ts : List Token) : Type := Except RenderError (α × Shorter ts)

/-- what was read, and no more tokens than there were -/
abbrev ReadOn (α : Type) (ts : List Token) : Type := Except RenderError (α × NoLonger ts)

/-- what a name stands for -/
def ofWord : String → Expr
  | "true" | "True" => constant (.bool true)
  | "false" | "False" => constant (.bool false)
  | "none" | "None" => constant .none
  | name => var name

def closed? (closing : Symbol) (ts : List Token) : Option (Shorter ts) :=
  match uncons? ts with
  | some (.symbol s, r) => if s = closing then some r else none
  | _ => none

mutual

/-- the expression at the start of the tokens -/
def readFirst (ts : List Token) : Read Expr ts := do
  let (e, ⟨r₁, h₁⟩) ← read .disjunction ts
  let (e, ⟨r₂, h₂⟩) ← readChoices e r₁
  return (e, ⟨r₂, by omega⟩)
termination_by (ts.length, 18)

/-- the expression of a level at the start of the tokens -/
def read (l : Tightness) (ts : List Token) : Read Expr ts := do
  let (e, ⟨r₁, h₁⟩) ← readSide l ts
  let (e, ⟨r₂, h₂⟩) ← readOperators l e r₁
  return (e, ⟨r₂, by omega⟩)
termination_by (ts.length, 2 * l.rank + 3)

/-- an operand of an operator of a level -/
def readSide (l : Tightness) (ts : List Token) : Read Expr ts :=
  match l with
  | .disjunction => read .conjunction ts
  | .conjunction => readNegation ts
  | .comparison => read .sum ts
  | .sum => read .concatenation ts
  | .concatenation => read .product ts
  | .product => read .power ts
  | .power => readOperand ts
termination_by (ts.length, 2 * l.rank + 2)

/-- a comparison with any number of `not` before it -/
def readNegation (ts : List Token) : Read Expr ts :=
  match uncons? ts with
  | some (.word "not", ⟨r, h⟩) => do
    let (e, ⟨r₁, h₁⟩) ← readNegation r
    return (not e, ⟨r₁, by omega⟩)
  | _ => read .comparison ts
termination_by (ts.length, 13)

/-- an operand with its parts and filters -/
def readOperand (ts : List Token) : Read Expr ts := do
  let (e, ⟨r₁, h₁⟩) ← readSigned ts
  let (e, ⟨r₂, h₂⟩) ← readParts e r₁
  let (e, ⟨r₃, h₃⟩) ← readFilters e r₂
  return (e, ⟨r₃, by omega⟩)
termination_by (ts.length, 1)

/-- the expression with the operators of a level and their other operands behind it -/
def readOperators (l : Tightness) (e : Expr) (ts : List Token) : ReadOn Expr ts :=
  match l.operator? ts with
  | none => return (e, ⟨ts, Nat.le_refl _⟩)
  | some (f, ⟨r, h⟩) => do
    let (e', ⟨r₁, h₁⟩) ← readSide l r
    let (e, ⟨r₂, h₂⟩) ← readOperators l (f e e') r₁
    return (e, ⟨r₂, by omega⟩)
termination_by (ts.length, 0)

/-- the expression with conditions behind it -/
def readChoices (e : Expr) (ts : List Token) : ReadOn Expr ts :=
  match uncons? ts with
  | some (.word "if", ⟨r, h⟩) => do
    let (cond, ⟨r₁, h₁⟩) ← read .disjunction r
    match uncons? r₁ with
    | some (.word "else", ⟨r₂, h₂⟩) => do
      let (no, ⟨r₃, h₃⟩) ← readFirst r₂
      let (e, ⟨r₄, h₄⟩) ← readChoices (choice cond e no) r₃
      return (e, ⟨r₄, by omega⟩)
    | _ => do
      let (e, ⟨r₂, h₂⟩) ← readChoices (choice cond e (constant .undefined)) r₁
      return (e, ⟨r₂, by omega⟩)
  | _ => return (e, ⟨ts, Nat.le_refl _⟩)
termination_by (ts.length, 0)

/-- an operand with the signs before it -/
def readSigned (ts : List Token) : Read Expr ts :=
  match uncons? ts with
  | some (.symbol .minus, ⟨r, h⟩) => do
    let (e, ⟨r₁, h₁⟩) ← readSigned r
    return (negate e, ⟨r₁, by omega⟩)
  | some (.word name, r) => return (ofWord name, r)
  | some (.text s, r) => return (constant (.text s), r)
  | some (.int n, r) => return (constant (.int n), r)
  | some (.float x, r) => return (constant (.float x), r)
  | some (.symbol .openRound, ⟨r, h⟩) =>
    match uncons? r with
    | some (.symbol .closeRound, ⟨r₁, h₁⟩) => return (list [], ⟨r₁, by omega⟩)
    | _ => do
      let (e, ⟨r₁, h₁⟩) ← readFirst r
      match uncons? r₁ with
      | some (.symbol .closeRound, ⟨r₂, h₂⟩) => return (e, ⟨r₂, by omega⟩)
      | some (.symbol .comma, ⟨r₂, h₂⟩) => do
        let (es, ⟨r₃, h₃⟩) ← readItems .closeRound r₂
        return (list (e :: es), ⟨r₃, by omega⟩)
      | _ => throw .malformed
  | some (.symbol .openSquare, ⟨r, h⟩) => do
    let (es, ⟨r₁, h₁⟩) ← readItems .closeSquare r
    return (list es, ⟨r₁, by omega⟩)
  | some (.symbol .openBrace, ⟨r, h⟩) => do
    let (es, ⟨r₁, h₁⟩) ← readEntries r
    return (map es, ⟨r₁, by omega⟩)
  | _ => throw .malformed
termination_by (ts.length, 0)

/-- the expression with parts of it and calls behind it -/
def readParts (e : Expr) (ts : List Token) : ReadOn Expr ts :=
  match uncons? ts with
  | some (.symbol .dot, ⟨r, h⟩) =>
    match uncons? r with
    | some (.word name, ⟨r₁, h₁⟩) => do
      let (e, ⟨r₂, h₂⟩) ← readParts (member e name) r₁
      return (e, ⟨r₂, by omega⟩)
    | _ => throw .malformed
  | some (.symbol .openSquare, ⟨r, h⟩) => do
    let (key, ⟨r₁, h₁⟩) ← readFirst r
    match uncons? r₁ with
    | some (.symbol .closeSquare, ⟨r₂, h₂⟩) => do
      let (e, ⟨r₃, h₃⟩) ← readParts (item e key) r₂
      return (e, ⟨r₃, by omega⟩)
    | _ => throw .malformed
  | some (.symbol .openRound, ⟨r, h⟩) => do
    let (args, ⟨r₁, h₁⟩) ← readArguments false r
    let (e, ⟨r₂, h₂⟩) ← readParts (call e args) r₁
    return (e, ⟨r₂, by omega⟩)
  | _ => return (e, ⟨ts, Nat.le_refl _⟩)
termination_by (ts.length, 0)

/-- the expression with filters and tests behind it -/
def readFilters (e : Expr) (ts : List Token) : ReadOn Expr ts :=
  match uncons? ts with
  | some (.symbol .bar, ⟨r, h⟩) =>
    match uncons? r with
    | some (.word name, ⟨r₁, h₁⟩) => do
      let (args, ⟨r₂, h₂⟩) ← readCall r₁
      let (e, ⟨r₃, h₃⟩) ← readFilters (filter e name args) r₂
      return (e, ⟨r₃, by omega⟩)
    | _ => throw .malformed
  | some (.word "is", ⟨r, h⟩) =>
    match uncons? r with
    | some (.word "not", ⟨r₁, h₁⟩) =>
      match uncons? r₁ with
      | some (.word name, ⟨r₂, h₂⟩) => do
        let (args, ⟨r₃, h₃⟩) ← readCall r₂
        let (e, ⟨r₄, h₄⟩) ← readFilters (not (test e name args)) r₃
        return (e, ⟨r₄, by omega⟩)
      | _ => throw .malformed
    | some (.word name, ⟨r₁, h₁⟩) => do
      let (args, ⟨r₂, h₂⟩) ← readCall r₁
      let (e, ⟨r₃, h₃⟩) ← readFilters (test e name args) r₂
      return (e, ⟨r₃, by omega⟩)
    | _ => throw .malformed
  | _ => return (e, ⟨ts, Nat.le_refl _⟩)
termination_by (ts.length, 0)

/-- the arguments of a filter or test, if there are any -/
def readCall (ts : List Token) : ReadOn (List (Option String × Expr)) ts :=
  match uncons? ts with
  | some (.symbol .openRound, ⟨r, h⟩) => do
    let (args, ⟨r₁, h₁⟩) ← readArguments false r
    return (args, ⟨r₁, by omega⟩)
  | _ => return ([], ⟨ts, Nat.le_refl _⟩)
termination_by (ts.length, 0)

/-- the arguments up to the closing bracket; once one of them is named all others must be -/
def readArguments (named : Bool) (ts : List Token) : Read (List (Option String × Expr)) ts :=
  match uncons? ts with
  | some (.symbol .closeRound, r) => return ([], r)
  | some (.word name, ⟨r, h⟩) =>
    match uncons? r with
    | some (.symbol .assign, ⟨r₁, h₁⟩) => do
      let (e, ⟨r₂, h₂⟩) ← read .disjunction r₁
      let (args, ⟨r₃, h₃⟩) ← readMoreArguments true r₂
      return ((some name, e) :: args, ⟨r₃, by omega⟩)
    | _ => readUnnamed named ts
  | _ => readUnnamed named ts
termination_by (ts.length, 20)

/-- an argument without a name and the arguments behind it -/
def readUnnamed (named : Bool) (ts : List Token) : Read (List (Option String × Expr)) ts :=
  if named then throw .malformed
  else do
    let (e, ⟨r₁, h₁⟩) ← readFirst ts
    let (args, ⟨r₂, h₂⟩) ← readMoreArguments false r₁
    return ((none, e) :: args, ⟨r₂, by omega⟩)
termination_by (ts.length, 19)

/-- the arguments behind an argument -/
def readMoreArguments (named : Bool) (ts : List Token) : Read (List (Option String × Expr)) ts :=
  match uncons? ts with
  | some (.symbol .closeRound, r) => return ([], r)
  | some (.symbol .comma, ⟨r, h⟩) => do
    let (args, ⟨r₁, h₁⟩) ← readArguments named r
    return (args, ⟨r₁, by omega⟩)
  | _ => throw .malformed
termination_by (ts.length, 0)

/-- the items up to the closing bracket; a comma may stand behind the last one -/
def readItems (closing : Symbol) (ts : List Token) : Read (List Expr) ts :=
  match closed? closing ts with
  | some r => return ([], r)
  | none => do
    let (e, ⟨r₁, h₁⟩) ← readFirst ts
    match uncons? r₁, closed? closing r₁ with
    | some (.symbol .comma, ⟨r₂, h₂⟩), _ => do
      let (es, ⟨r₃, h₃⟩) ← readItems closing r₂
      return (e :: es, ⟨r₃, by omega⟩)
    | _, some ⟨r₂, h₂⟩ => return ([e], ⟨r₂, by omega⟩)
    | _, none => throw .malformed
termination_by (ts.length, 19)

/-- the entries up to the closing brace; a comma may stand behind the last one -/
def readEntries (ts : List Token) : Read (List (Expr × Expr)) ts :=
  match uncons? ts with
  | some (.symbol .closeBrace, r) => return ([], r)
  | _ => do
    let (key, ⟨r₁, h₁⟩) ← readFirst ts
    match uncons? r₁ with
    | some (.symbol .colon, ⟨r₂, h₂⟩) => do
      let (e, ⟨r₃, h₃⟩) ← readFirst r₂
      match uncons? r₃ with
      | some (.symbol .comma, ⟨r₄, h₄⟩) => do
        let (es, ⟨r₅, h₅⟩) ← readEntries r₄
        return ((key, e) :: es, ⟨r₅, by omega⟩)
      | some (.symbol .closeBrace, ⟨r₄, h₄⟩) => return ([(key, e)], ⟨r₄, by omega⟩)
      | _ => throw .malformed
    | _ => throw .malformed
termination_by (ts.length, 19)

end

def ofTokens (ts : List Token) : Except RenderError Expr := do
  let (e, ⟨rest, _⟩) ← readFirst ts
  if rest.isEmpty then return e else throw .malformed

end ServiceBoundary.Template.Expr
