import ServiceBoundary.Tally.Basic

/-!
# Counters of 32 bits

The program keeps its counts in words of 32 bits, and `2 ^ 32 - 1` has no successor there. It may
be built in two ways: the count then starts again from zero, so that the module is expanded once
more, or the program is broken off. Here is the loop of a visit with such counters. A loop of either
kind ends in its last state or, if it is broken off, in the state that it has reached by then.
Whether it ends is not for the definition to say, so the loop is a relation and not a function; it
ends in one way only (`Trace.Ends.unique`).

* `Overflow.increment`   one more, in a word;
* `Trace`                counters, and the modules that were expanded so far;
* `Trace.Ends`           where the loop over a stack of modules ends;
* `Trace.VisitsEnd`      where direct visits end, one after the other;
* `Counters.empty`, `setCount`, `promoteOne`, `promote`, `reset`   as for tallies;
* `Counters.OfRoots`     the counters of a run;
* `Counters.tally`       the counters, read as numbers.
-/

namespace ServiceBoundary

/-- what becomes of a count that has no successor -/
inductive Overflow where
  /-- it starts again from zero -/
  | wraps
  /-- the program is broken off -/
  | stops
deriving DecidableEq, Repr

/-- one more, unless the program is broken off -/
def Overflow.increment (n : UInt32) : Overflow → Option UInt32
  | .wraps => some (n + 1)
  | .stops => if n = 0xffffffff then none else some (n + 1)

/-- how often each module was asked for, in 32 bits, and which modules were made roots -/
structure Counters (g : ModuleGraph) where
  visits : Vector UInt32 g.size
  /-- the roots, without repetition, in the order in which they became roots -/
  roots : List (Fin g.size)

/-- what a loop has done so far -/
structure Trace (g : ModuleGraph) where
  counters : Counters g
  /-- the modules that were expanded, in order; after an overflow a module may be expanded again -/
  fresh : List (Fin g.size)

/-- where a loop ends: in its last state (`ok`), or in the one where it was broken off (`error`) -/
abbrev Outcome (g : ModuleGraph) := Except (Trace g) (Trace g)

namespace Counters
variable {g : ModuleGraph}

def empty (g : ModuleGraph) : Counters g where
  visits := Vector.replicate g.size 0
  roots := []

instance : EmptyCollection (Counters g) := ⟨empty g⟩

def count (c : Counters g) (m : Fin g.size) : UInt32 := c.visits.get m

def setCount (c : Counters g) (m : Fin g.size) (n : UInt32) : Counters g :=
  { c with visits := c.visits.setIfInBounds m n }

def promoteOne (c : Counters g) (m : Fin g.size) : Counters g :=
  let raised := if c.count m ≤ 1 then c.setCount m 2 else c
  { raised with roots := if c.roots.contains m then c.roots else c.roots ++ [m] }

def promote (c : Counters g) (ms : List (Fin g.size)) : Counters g := ms.foldl promoteOne c

def reset (c : Counters g) : Counters g where
  visits := c.visits.map fun _ => 0
  roots := []

/-- the same counts as numbers -/
def tally (c : Counters g) : Tally g where
  visits := c.visits.map UInt32.toNat
  roots := c.roots

end Counters

namespace Trace
variable {g : ModuleGraph} {o : Overflow} {t : Trace g} {stack ms : List (Fin g.size)}
  {r r' : Outcome g}

/-- one visit more -/
def bump (o : Overflow) (t : Trace g) (m : Fin g.size) : Outcome g :=
  match o.increment (t.counters.count m) with
  | some n => .ok { t with counters := t.counters.setCount m n }
  | none => .error t

/-- the module is expanded -/
def expand (t : Trace g) (m : Fin g.size) : Trace g := { t with fresh := t.fresh ++ [m] }

/-- The loop visits the modules on a stack, the top one first. A module with a count of one, or with
a count that starts again, is expanded: it puts its dependencies on the stack. -/
inductive Ends (o : Overflow) : Trace g → (stack : List (Fin g.size)) → Outcome g → Prop
  | done {t : Trace g} : Ends o t [] (.ok t)
  | broken {t u : Trace g} {m : Fin g.size} {stack : List (Fin g.size)} :
      t.bump o m = .error u → Ends o t (m :: stack) (.error u)
  | later {t u : Trace g} {m : Fin g.size} {stack : List (Fin g.size)} {r : Outcome g} :
      t.bump o m = .ok u → 1 < u.counters.count m → Ends o u stack r → Ends o t (m :: stack) r
  | first {t u : Trace g} {m : Fin g.size} {stack : List (Fin g.size)} {r : Outcome g} :
      t.bump o m = .ok u → ¬ 1 < u.counters.count m →
      Ends o (u.expand m) (g.dependencies m ++ stack) r → Ends o t (m :: stack) r

/-- direct visits, one after the other, each with a loop of its own -/
inductive VisitsEnd (o : Overflow) : Trace g → (ms : List (Fin g.size)) → Outcome g → Prop
  | done {t : Trace g} : VisitsEnd o t [] (.ok t)
  | broken {t u : Trace g} {m : Fin g.size} {ms : List (Fin g.size)} :
      Ends o t [m] (.error u) → VisitsEnd o t (m :: ms) (.error u)
  | next {t u : Trace g} {m : Fin g.size} {ms : List (Fin g.size)} {r : Outcome g} :
      Ends o t [m] (.ok u) → VisitsEnd o u ms r → VisitsEnd o t (m :: ms) r

theorem Ends.unique (h : Ends o t stack r) (h' : Ends o t stack r') : r = r' := by
  induction h with
  | done =>
    cases h'
    rfl
  | broken hbump =>
    cases h' with
    | broken hbump' => exact hbump.symm.trans hbump'
    | later hbump' => cases hbump.symm.trans hbump'
    | first hbump' => cases hbump.symm.trans hbump'
  | later hbump hlt _ ih =>
    cases h' with
    | broken hbump' => cases hbump.symm.trans hbump'
    | later hbump' _ h' =>
      cases hbump.symm.trans hbump'
      exact ih h'
    | first hbump' hle =>
      cases hbump.symm.trans hbump'
      exact absurd hlt hle
  | first hbump hle _ ih =>
    cases h' with
    | broken hbump' => cases hbump.symm.trans hbump'
    | later hbump' hlt =>
      cases hbump.symm.trans hbump'
      exact absurd hlt hle
    | first hbump' _ h' =>
      cases hbump.symm.trans hbump'
      exact ih h'

theorem VisitsEnd.unique (h : VisitsEnd o t ms r) (h' : VisitsEnd o t ms r') : r = r' := by
  induction h with
  | done =>
    cases h'
    rfl
  | broken hvisit =>
    cases h' with
    | broken hvisit' => exact hvisit.unique hvisit'
    | next hvisit' => cases hvisit.unique hvisit'
  | next hvisit _ ih =>
    cases h' with
    | broken hvisit' => cases hvisit.unique hvisit'
    | next hvisit' h' =>
      cases hvisit.unique hvisit'
      exact ih h'

theorem visitsEnd_singleton_iff {m : Fin g.size} : VisitsEnd o t [m] r ↔ Ends o t [m] r := by
  constructor
  · intro h
    cases h with
    | broken h => exact h
    | next h hrest =>
      cases hrest
      exact h
  · intro h
    cases r with
    | error u => exact VisitsEnd.broken h
    | ok u => exact VisitsEnd.next h VisitsEnd.done

end Trace

/-- A run ends with these counters: all names are looked up, then all roots are visited, and then
all are promoted. -/
def Counters.OfRoots {g : ModuleGraph} (o : Overflow) (names : List String) (c : Counters g) :
    Prop :=
  names ≠ [] ∧ ∃ ids u, g.findRoots names = .ok ids ∧ Trace.VisitsEnd o ⟨∅, []⟩ ids (.ok u) ∧
    u.counters.promote ids = c

end ServiceBoundary
