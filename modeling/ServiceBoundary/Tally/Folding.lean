import ServiceBoundary.Tally.Basic

/-!
# Folding

A service absorbs every module that can be reached from it through modules that are not services
themselves. The walk that lists them goes depth first, in declared order, and keeps no record of
where it was: after a run a folded module has one dependent only, so it is met once.

In other states the walk may meet a module again, and it has no end if modules that are no services
depend on each other in a circle. A path of more than `size` such modules passes one of them twice,
so each entry on the stack carries how many steps its path may still take, and the walk gives up
(`none`) where a path gets longer.

* `Tally.members`      the service followed by what it absorbs, in walk order;
* `Tally.folded`       what it absorbs;
* `Tally.resources`    the regions of all of them;
* `Tally.flags`        the flags of the service, under a policy.
-/

namespace ServiceBoundary

/-- which build flags a service gets -/
inductive FlagPolicy where
  /-- its own -/
  | «local»
  /-- its own and those of the modules it absorbs, each flag once -/
  | transitive
deriving DecidableEq, Repr

def FlagPolicy.label : FlagPolicy → String
  | .local => "local"
  | .transitive => "transitive"

namespace Tally
variable {g : ModuleGraph}

/-- the dependencies that are no services of their own, in declared order -/
def folds (t : Tally g) (m : Fin g.size) : List (Fin g.size) :=
  (g.dependencies m).filter fun d => !t.isStandalone d

/-- the number of dependencies of all modules together -/
def breadth (g : ModuleGraph) : Nat :=
  g.ids.foldr (fun m n => (g.dependencies m).length + n) 0

theorem length_folds_le_breadth (t : Tally g) (m : Fin g.size) :
    (t.folds m).length ≤ breadth g := by
  refine Nat.le_trans (List.length_filter_le _ _) ?_
  have hm := g.mem_ids m
  unfold breadth
  generalize g.ids = ids at hm ⊢
  induction ids with
  | nil => cases hm
  | cons a ids ih =>
    rcases List.mem_cons.1 hm with rfl | hm
    · exact Nat.le_add_right _ _
    · exact Nat.le_trans (ih hm) (Nat.le_add_left _ _)

/-- how long a walk over the stack may be, if each module has fewer than `b` dependencies -/
def weight (b : Nat) : (stack : List (Nat × Fin g.size)) → Nat
  | [] => 0
  | e :: stack => Nat.pow b e.1 + weight b stack

theorem weight_append (b : Nat) (s r : List (Nat × Fin g.size)) :
    weight b (s ++ r) = weight b s + weight b r := by
  induction s with
  | nil => simp [weight]
  | cons e s ih => simp only [List.cons_append, weight, ih, Nat.add_assoc]

theorem weight_map_mk (b n : Nat) (ms : List (Fin g.size)) :
    weight b (ms.map (Prod.mk n)) = ms.length * Nat.pow b n := by
  induction ms with
  | nil => simp [weight]
  | cons m ms ih =>
    simp only [List.map_cons, weight, ih, List.length_cons, Nat.succ_mul, Nat.add_comm]

/-- The modules met by the walk, in order. Each entry of the stack is a module and the number of
modules that a path starting there may have. -/
def walk (t : Tally g) : (stack : List (Nat × Fin g.size)) → Option (List (Fin g.size))
  | [] => some []
  | (0, _) :: _ => none
  | (n + 1, m) :: stack =>
    match walk t ((t.folds m).map (Prod.mk n) ++ stack) with
    | some order => some (m :: order)
    | none => none
termination_by stack => weight (breadth g + 1) stack
decreasing_by
  rw [weight_append, weight_map_mk, weight]
  have hlt : (t.folds m).length < breadth g + 1 :=
    Nat.lt_succ_of_le (t.length_folds_le_breadth m)
  have hpos : 0 < Nat.pow (breadth g + 1) n := Nat.pow_pos (Nat.succ_pos _)
  have hmul := calc
    (t.folds m).length * Nat.pow (breadth g + 1) n
      < (breadth g + 1) * Nat.pow (breadth g + 1) n := Nat.mul_lt_mul_of_pos_right hlt hpos
    _ = Nat.pow (breadth g + 1) (n + 1) := Nat.mul_comm _ _
  exact Nat.add_lt_add_right hmul _

/-- The module followed by what is folded into it, in walk order; `none` if the walk has no end.
A path may have the start and, without passing one of them twice, all modules of the graph. -/
def members? (t : Tally g) (m : Fin g.size) : Option (List (Fin g.size)) :=
  t.walk [(g.size + 1, m)]

/-- the module followed by what is folded into it -/
def members (t : Tally g) (m : Fin g.size) : Except PlanningError (List (Fin g.size)) :=
  match t.members? m with
  | some order => .ok order
  | none => .error (.endlessFolding (g.name m))

/-- what is folded into the module -/
def folded (t : Tally g) (m : Fin g.size) : Except PlanningError (List (Fin g.size)) :=
  (t.members m).map List.tail

/-- the regions of the module and of all that is folded into it -/
def resources (t : Tally g) (m : Fin g.size) : Except PlanningError Resources :=
  (t.members m).map fun order => Resources.join (order.map fun k => (g.get k).resources)

def flags (t : Tally g) (m : Fin g.size) : FlagPolicy → Except PlanningError (List String)
  | .local => .ok (g.get m).flags
  | .transitive => (t.members m).map fun order =>
      (order.flatMap fun k => (g.get k).flags).eraseDups

end Tally

end ServiceBoundary
