import ServiceBoundary.Template.Arithmetic

/-!
# Expressions of templates
-/

namespace ServiceBoundary.Template

inductive Expr where
  | constant (v : Value)
  | var (name : String)
  | list (items : List Expr)
  | map (entries : List (Expr × Expr))
  /-- a part that is named -/
  | member (e : Expr) (name : String)
  /-- a part that is computed -/
  | item (e key : Expr)
  /-- a call with arguments, some of them named -/
  | call (e : Expr) (arguments : List (Option String × Expr))
  | filter (e : Expr) (name : String) (arguments : List (Option String × Expr))
  | test (e : Expr) (name : String) (arguments : List (Option String × Expr))
  | negate (e : Expr)
  | operation (op : Operator) (a b : Expr)
  | not (e : Expr)
  /-- the first value if it does not count as true, else the second -/
  | both (a b : Expr)
  /-- the first value if it counts as true, else the second -/
  | either (a b : Expr)
  | choice (test yes no : Expr)

end ServiceBoundary.Template
