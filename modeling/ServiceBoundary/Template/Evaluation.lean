import ServiceBoundary.Template.Expr.Basic
import ServiceBoundary.Template.Filter

/-!
# Values of expressions

Names have values in frames, and the innermost frame that knows a name counts. A name without a
value is undefined.

* `Expr.value`   the value of an expression in a scope.
-/

namespace ServiceBoundary.Template

/-- names with their values -/
abbrev Frame : Type := List (String × Value)

/-- frames, the innermost first -/
abbrev Scope : Type := List Frame

namespace Scope

def find? (s : Scope) (name : String) : Option Value := s.findSome? fun frame => frame.lookup name

/-- the scope with a value for a name in the innermost frame -/
def assign (s : Scope) (name : String) (v : Value) : Scope :=
  match s with
  | [] => [[(name, v)]]
  | frame :: frames => ((name, v) :: frame.filter fun e => e.1 ≠ name) :: frames

end Scope

def unnamed (args : List (Option String × Value)) : List Value :=
  args.filterMap fun a => if a.1.isNone then some a.2 else none

def named (args : List (Option String × Value)) : List (String × Value) :=
  args.filterMap fun a => a.1.map fun name => (name, a.2)

namespace Value

/-- the value of a call of a method; a loop has one that goes round its arguments -/
def method (v : Value) (name : String) (args : List (Option String × Value)) :
    Except RenderError Value :=
  match v, name with
  | loop index _ _ _, "cycle" =>
    let choices := unnamed args
    .ok (choices[index % choices.length]?.getD undefined)
  | v, name => .error (if (v.part? (text name)).isSome then .operation else .unknownMethod)

end Value

namespace Expr

/-- the value of a call of something that is no part of a value; there are no functions -/
def called (s : Scope) : Expr → RenderError
  | var name => if (s.find? name).isSome then .operation else .unknownFunction
  | _ => .operation

mutual

def value (s : Scope) : Expr → Except RenderError Value
  | constant v => return v
  | var name => return (s.find? name).getD .undefined
  | list es => return .list (← values s es)
  | map es => return .ofEntries (← entryValues s es)
  | member e name => do (← value s e).member name
  | item e key => do (← value s e).item (← value s key)
  | call (member e name) args => do (← value s e).method name (← argumentValues s args)
  | call e args => do
    let _ ← argumentValues s args
    throw (called s e)
  | filter e name args => do
    let v ← value s e
    let args ← argumentValues s args
    v.filtered name (unnamed args) (named args)
  | test e name args => do
    let v ← value s e
    let args ← argumentValues s args
    return .bool (← v.tested name (args.map Prod.snd))
  | negate e => do (← value s e).negate
  | operation op a b => do (← value s a).operate op (← value s b)
  | not e => return .bool !(← value s e).isTrue
  | both a b => do
    let v ← value s a
    if v.isTrue then value s b else return v
  | either a b => do
    let v ← value s a
    if v.isTrue then return v else value s b
  | choice cond yes no => do if (← value s cond).isTrue then value s yes else value s no

def values (s : Scope) : List Expr → Except RenderError (List Value)
  | [] => return []
  | e :: es => return (← value s e) :: (← values s es)

def entryValues (s : Scope) : List (Expr × Expr) → Except RenderError (List (Value × Value))
  | [] => return []
  | (k, e) :: es => return (← value s k, ← value s e) :: (← entryValues s es)

def argumentValues (s : Scope) :
    List (Option String × Expr) → Except RenderError (List (Option String × Value))
  | [] => return []
  | (name, e) :: es => return (name, ← value s e) :: (← argumentValues s es)

end

end Expr

end ServiceBoundary.Template
