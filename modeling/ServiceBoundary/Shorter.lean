/-!
# Shorter rests

A reader that takes something from the front of a list gives back the rest together with the proof
that it is shorter, so whoever goes on with the rest comes to an end.
-/

namespace ServiceBoundary

/-- a list that is shorter than `l` -/
abbrev Shorter {α : Type} (l : List α) : Type := { rest : List α // rest.length < l.length }

/-- a list that is not longer than `l` -/
abbrev NoLonger {α : Type} (l : List α) : Type := { rest : List α // rest.length ≤ l.length }

/-- the first item and the rest -/
def uncons? {α : Type} : (l : List α) → Option (α × Shorter l)
  | [] => none
  | a :: rest => some (a, ⟨rest, Nat.lt_succ_self _⟩)

end ServiceBoundary
