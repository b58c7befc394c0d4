import ServiceBoundary.ModuleGraph.Basic

/-!
# Tallies: how often each module is asked for

A tally counts, for every module of a graph, how often it was asked for: by a direct visit, or by a
module that depends on it. The first visit of a module goes on to its dependencies; later visits
only count, so below a module that is reached twice nothing is counted twice.

The count decides the role. Counted once, a module belongs to the one that asked for it and is
folded into it; counted twice or more it is a service of its own; not counted it is unused. Modules
asked for by name, the roots, are promoted: their count is raised to two if it is lower.

A count is a number here. `Counters` has the words of 32 bits in which it is kept, and what becomes
of them where a count does not fit.

* `Tally.propagate`   visits a list of modules with an explicit stack, and tells which modules were
                      visited for the first time, in order;
* `Tally.visit`       one direct visit;
* `Tally.promote`     makes modules roots;
* `Tally.ofRoots`     the tally of a selection: all roots are visited, then all are promoted;
* `Tally.reset`       forgets everything.
-/

namespace ServiceBoundary

/-- how often each module was asked for, and which modules were made roots -/
structure Tally (g : ModuleGraph) where
  /-- the count of each module -/
  visits : Vector Nat g.size
  /-- the roots, without repetition, in the order in which they became roots -/
  roots : List (Fin g.size)

/-- what becomes of a module -/
inductive Role where
  /-- a service of its own -/
  | standalone
  /-- absorbed by the one service that uses it -/
  | folded
  /-- not asked for -/
  | unused
deriving DecidableEq, Repr

/-- the name of the role in reports -/
def Role.label : Role → String
  | .standalone => "standalone"
  | .folded => "folded"
  | .unused => "unused"

namespace Tally
variable {g : ModuleGraph}

/-- nothing counted, no roots -/
def empty (g : ModuleGraph) : Tally g where
  visits := Vector.replicate g.size 0
  roots := []

instance : EmptyCollection (Tally g) := ⟨empty g⟩

def count (t : Tally g) (m : Fin g.size) : Nat := t.visits.get m

/-- the tally with another count for one module -/
def setCount (t : Tally g) (m : Fin g.size) (n : Nat) : Tally g :=
  { t with visits := t.visits.set m n m.isLt }

/-- the number of modules that were not asked for -/
def unvisited (t : Tally g) : Nat := t.visits.count 0

@[simp] theorem count_empty (m : Fin g.size) : (∅ : Tally g).count m = 0 := by
  change (Vector.replicate g.size 0)[m.val] = 0
  simp

@[simp] theorem roots_empty : (∅ : Tally g).roots = [] := rfl

@[simp] theorem roots_setCount (t : Tally g) (m : Fin g.size) (n : Nat) :
    (t.setCount m n).roots = t.roots := rfl

theorem count_setCount (t : Tally g) (m k : Fin g.size) (n : Nat) :
    (t.setCount m n).count k = if m = k then n else t.count k := by
  change (t.visits.set m n m.isLt)[k.val] = if m = k then n else t.visits[k.val]
  simp [Vector.getElem_set, Fin.ext_iff]

@[ext] theorem ext {s t : Tally g} (hc : ∀ m, s.count m = t.count m) (hr : s.roots = t.roots) :
    s = t := by
  obtain ⟨sv, sr⟩ := s
  obtain ⟨tv, tr⟩ := t
  obtain rfl : sr = tr := hr
  congr
  ext i hi
  exact hc ⟨i, hi⟩

/-- one visit more -/
def bump (t : Tally g) (m : Fin g.size) : Tally g := t.setCount m (t.count m + 1)

theorem count_bump (t : Tally g) (m k : Fin g.size) :
    (t.bump m).count k = t.count k + if m = k then 1 else 0 := by
  rw [bump, count_setCount]
  split <;> simp_all

@[simp] theorem roots_bump (t : Tally g) (m : Fin g.size) : (t.bump m).roots = t.roots := rfl

theorem unvisited_bump_of_count_eq_zero {t : Tally g} {m : Fin g.size} (h : t.count m = 0) :
    (t.bump m).unvisited + 1 = t.unvisited := by
  have hm : t.visits[m.val] = 0 := h
  have hpos : 0 < t.visits.count 0 := Vector.count_pos_iff.2 (hm ▸ Vector.getElem_mem m.isLt)
  simp only [unvisited, bump, setCount, h]
  rw [Vector.count_set]
  simp [hm]
  omega

theorem unvisited_bump_of_count_ne_zero {t : Tally g} {m : Fin g.size} (h : t.count m ≠ 0) :
    (t.bump m).unvisited = t.unvisited := by
  have hm : t.visits[m.val] ≠ 0 := h
  simp only [unvisited, bump, setCount]
  rw [Vector.count_set]
  simp [hm]

/-- Visits the modules on the stack, the top one first. A module that is visited for the first time
puts its dependencies on the stack, the first declared on top. The second result lists the modules
visited for the first time, in order. -/
def propagate (t : Tally g) : (stack : List (Fin g.size)) → Tally g × List (Fin g.size)
  | [] => (t, [])
  | m :: stack =>
    if t.count m = 0 then
      let (t', fresh) := propagate (t.bump m) (g.dependencies m ++ stack)
      (t', m :: fresh)
    else
      propagate (t.bump m) stack
termination_by stack => (t.unvisited, stack.length)
decreasing_by
  · next h =>
      have := unvisited_bump_of_count_eq_zero h
      exact Prod.Lex.left _ _ (by omega)
  · next h =>
      rw [unvisited_bump_of_count_ne_zero h]
      exact Prod.Lex.right _ (by simp)

/-- one direct visit of a module -/
def visit (t : Tally g) (m : Fin g.size) : Tally g := (t.propagate [m]).1

/-- raises the count of a root to two if it is lower, and lists the root -/
def promoteOne (t : Tally g) (m : Fin g.size) : Tally g :=
  let raised := if t.count m ≤ 1 then t.setCount m 2 else t
  { raised with roots := if m ∈ t.roots then t.roots else t.roots ++ [m] }

/-- makes modules roots, one after the other -/
def promote (t : Tally g) (ms : List (Fin g.size)) : Tally g := ms.foldl promoteOne t

/-- the modules whose count `promote` raises, in order -/
def raised (t : Tally g) : (ms : List (Fin g.size)) → List (Fin g.size)
  | [] => []
  | m :: ms => if t.count m ≤ 1 then m :: (t.promoteOne m).raised ms else (t.promoteOne m).raised ms

/-- zeroes every count and forgets the roots -/
def reset (t : Tally g) : Tally g where
  visits := t.visits.map fun _ => 0
  roots := []

@[simp] theorem reset_eq_empty (t : Tally g) : t.reset = ∅ := by
  refine Tally.ext (fun m => ?_) rfl
  rw [count_empty]
  change (t.visits.map fun _ => 0)[m.val] = 0
  rw [Vector.getElem_map]

/-- what becomes of a module -/
def role (t : Tally g) (m : Fin g.size) : Role :=
  match t.count m with
  | 0 => .unused
  | 1 => .folded
  | _ + 2 => .standalone

/-- whether the module is a service of its own -/
def isStandalone (t : Tally g) (m : Fin g.size) : Bool := 1 < t.count m

def standalone (t : Tally g) : List (Fin g.size) := g.ids.filter t.isStandalone

@[simp] theorem mem_standalone {t : Tally g} {m : Fin g.size} :
    m ∈ t.standalone ↔ 1 < t.count m := by
  simp [standalone, isStandalone]

theorem role_eq_standalone_iff {t : Tally g} {m : Fin g.size} :
    t.role m = .standalone ↔ 1 < t.count m := by
  unfold role
  split <;> simp_all

theorem role_eq_folded_iff {t : Tally g} {m : Fin g.size} :
    t.role m = .folded ↔ t.count m = 1 := by
  unfold role
  split <;> simp_all

end Tally

/-- why there is no plan -/
inductive PlanningError where
  /-- no module is a service -/
  | emptySelection
  /-- a root is not declared -/
  | unknownRoot (name : String)
  /-- modules that are not services of their own depend on each other in a circle, so the walk that
  would fold them into this one has no end -/
  | endlessFolding (name : String)
deriving DecidableEq, Repr

def PlanningError.message : PlanningError → String
  | .emptySelection => "no modules selected: need at least one root module to plan"
  | .unknownRoot name => "selected module '" ++ name ++ "' is not declared in the manifest"
  | .endlessFolding name => "module '" ++ name ++ "' folds modules that depend on each other"

/-- the modules of these names; the first name that is not declared is an error -/
def ModuleGraph.findRoots (g : ModuleGraph) (names : List String) :
    Except PlanningError (List (Fin g.size)) :=
  names.mapM fun name =>
    match g.find? name with
    | some m => .ok m
    | none => .error (.unknownRoot name)

/-- The tally of a selection of roots. All names are looked up before anything is counted. -/
def Tally.ofRoots (g : ModuleGraph) (names : List String) : Except PlanningError (Tally g) :=
  if names.isEmpty then
    .error .emptySelection
  else do
    let ids ← g.findRoots names
    return ((∅ : Tally g).propagate ids).1.promote ids

end ServiceBoundary
