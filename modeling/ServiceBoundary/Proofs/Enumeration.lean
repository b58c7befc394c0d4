import Mathlib
import ServiceBoundary.Proofs.Planning

/-!
# The walk as a recursion

What a module folds can be listed without a stack: the module comes first, and then the lists of its
dependencies, in declared order, where services are passed over. `Tally.Enumerates` is this recursion.
It ends for some modules and states and not for others, so it is a relation and not a function.

The walk does the same with all modules that wait on its stack, and it passes a service over when it
would be put there, not when it would be taken from there. So what it lists is what the recursion
lists for the modules on its stack, one list behind the other. This holds in any state: also where a
module is met again, which does not happen after a selection, and where the walk starts at a module
that is folded or not counted.

* `exists_enumerates_of_walkEnds`   a walk over a stack is made of the lists of its modules;
* `Enumerates.precedes`             a list of the recursion can be put in front of a walk;
* `walkEnds_iff_enumerates`         the walk from a module ends if and only if the recursion does;
* `walk_is_a_recursion`             the walk from a module, its regions and what is folded into it.

`ModuleGraph.diamond` is a graph in which a walk meets a module twice, for examples.
-/

namespace ServiceBoundary

/-- An application uses two libraries, and both use a log. -/
def ModuleGraph.diamond : ModuleGraph where
  size := 4
  modules := #v[
    { name := "app", source := "app.elf", resources := { memory := [⟨16, 16, 1⟩] }, flags := [],
      dependencies := [1, 2], dependencies_nodup := by decide },
    { name := "net", source := "net.elf", resources := { dma := [⟨64, 1⟩, ⟨32, 1⟩] }, flags := [],
      dependencies := [3], dependencies_nodup := by decide },
    { name := "disk", source := "disk.elf", resources := { memory := [⟨48, 48, 1⟩] }, flags := [],
      dependencies := [3], dependencies_nodup := by decide },
    { name := "log", source := "log.elf", resources := { memory := [⟨32, 32, 1⟩] }, flags := [],
      dependencies := [], dependencies_nodup := by decide }]
  names_nodup := by decide

instance : NeZero ModuleGraph.diamond.size := ⟨by decide⟩

namespace Tally
open ModuleGraph (diamond)
variable {g : ModuleGraph} {t : Tally g} {m : Fin g.size} {stack order : List (Fin g.size)}

/-! ## the recursion -/

/-- The recursion lists a module, and then all that it lists for those of its dependencies that are
no services, in declared order. -/
inductive Enumerates (t : Tally g) : Fin g.size → List (Fin g.size) → Prop
  | intro {m : Fin g.size} {parts : List (List (Fin g.size))} :
      List.Forall₂ (Enumerates t) ((g.dependencies m).filter fun d => t.count d < 2) parts →
      Enumerates t m (m :: parts.flatten)

theorem folds_eq_filter (t : Tally g) (m : Fin g.size) :
    t.folds m = (g.dependencies m).filter fun d => t.count d < 2 := by
  refine List.filter_congr fun d _ => ?_
  rw [isStandalone, ← decide_not, decide_eq_decide]
  omega

/-- induction along the recursion: what is to be shown holds for each dependency that is listed -/
@[elab_as_elim]
theorem Enumerates.induction {motive : Fin g.size → List (Fin g.size) → Prop}
    (step : ∀ (m : Fin g.size) (parts : List (List (Fin g.size))),
      List.Forall₂ motive ((g.dependencies m).filter fun d => t.count d < 2) parts →
      motive m (m :: parts.flatten))
    {m : Fin g.size} {order : List (Fin g.size)} (h : t.Enumerates m order) : motive m order := by
  refine @Enumerates.rec g t (fun m order _ => motive m order)
    (fun ms parts _ => List.Forall₂ motive ms parts) ?_ List.Forall₂.nil ?_ m order h
  · intro m parts _ hparts
    exact step m parts hparts
  · intro d part ds parts _ _ hpart hparts
    exact List.Forall₂.cons hpart hparts

/-! ## the stack -/

/-- **A walk over a stack is made of the lists of its modules**, one behind the other. -/
theorem exists_enumerates_of_walkEnds (h : t.WalkEnds stack order) :
    ∃ parts, List.Forall₂ t.Enumerates stack parts ∧ order = parts.flatten := by
  induction h with
  | done => exact ⟨[], List.Forall₂.nil, rfl⟩
  | @turn m stack order _ ih =>
    obtain ⟨parts, hparts, rfl⟩ := ih
    -- the first lists are those of the dependencies, the others belong to the rest of the stack
    have hbelow := (List.forall₂_take_append _ _ _ hparts.flip).flip
    have hothers := (List.forall₂_drop_append _ _ _ hparts.flip).flip
    rw [folds_eq_filter] at hbelow
    refine ⟨_, List.Forall₂.cons (Enumerates.intro hbelow) hothers, ?_⟩
    rw [List.flatten_cons, List.cons_append, ← List.flatten_append, ← folds_eq_filter,
      List.take_append_drop]

/-- the module may be put on any stack, and the list in front of its walk -/
def Precedes (t : Tally g) (m : Fin g.size) (part : List (Fin g.size)) : Prop :=
  ∀ stack order, t.WalkEnds stack order → t.WalkEnds (m :: stack) (part ++ order)

theorem WalkEnds.append_of_precedes {ms : List (Fin g.size)} {parts : List (List (Fin g.size))}
    (h : List.Forall₂ t.Precedes ms parts) (hrest : t.WalkEnds stack order) :
    t.WalkEnds (ms ++ stack) (parts.flatten ++ order) := by
  induction h with
  | nil => exact hrest
  | cons hpart _ ih =>
    rw [List.flatten_cons, List.append_assoc]
    exact hpart _ _ ih

/-- **A list of the recursion can be put in front of a walk.** -/
theorem Enumerates.precedes (h : t.Enumerates m order) : t.Precedes m order := by
  refine Enumerates.induction (fun m parts ih => ?_) h
  intro stack order hrest
  rw [← folds_eq_filter] at ih
  exact WalkEnds.turn (WalkEnds.append_of_precedes ih hrest)

/-- **The walk from a module ends if and only if the recursion does**, and with the same list. -/
theorem walkEnds_iff_enumerates : t.WalkEnds [m] order ↔ t.Enumerates m order := by
  constructor
  · intro h
    obtain ⟨parts, hparts, rfl⟩ := exists_enumerates_of_walkEnds h
    obtain ⟨part, _, hpart, hnil, rfl⟩ := List.forall₂_cons_left_iff.1 hparts
    obtain rfl := List.forall₂_nil_left_iff.1 hnil
    rw [List.flatten_singleton]
    exact hpart
  · intro h
    have hw := h.precedes [] [] WalkEnds.done
    rwa [List.append_nil] at hw

/-! ## the answers -/

theorem Enumerates.unique {order' : List (Fin g.size)} (h : t.Enumerates m order)
    (h' : t.Enumerates m order') : order = order' :=
  (walkEnds_iff_enumerates.2 h).unique (walkEnds_iff_enumerates.2 h')

theorem group_eq_of_walkEnds (h : t.WalkEnds [m] order) : t.group m = order :=
  (walkEnds_group (not_circles_of_walkEnds h)).unique h

theorem memory_owned (t : Tally g) (m : Fin g.size) :
    (t.owned m).memory = (t.group m).flatMap fun k => (g.get k).resources.memory := by
  rw [owned, Resources.memory_join, List.flatMap_map]

theorem dma_owned (t : Tally g) (m : Fin g.size) :
    (t.owned m).dma = (t.group m).flatMap fun k => (g.get k).resources.dma := by
  rw [owned, Resources.dma_join, List.flatMap_map]

/-- **The walk is a recursion.** In any state, the walk from a module ends if and only if the
recursion does, whatever the module counts. If they end, they list the same modules in the same
order; the regions of the module are those of the listed modules, in this order and each module's
own in their order; and what is folded into it is the list without its first entry. -/
theorem walk_is_a_recursion (g : ModuleGraph) (t : Tally g) (m : Fin g.size) :
    ((∃ order, t.WalkEnds [m] order) ↔ ∃ order, t.Enumerates m order) ∧
    ∀ order, t.WalkEnds [m] order →
      t.Enumerates m order ∧ (∀ order', t.Enumerates m order' → order' = order) ∧
      t.members m = .ok order ∧
      (∃ r, t.resources m = .ok r ∧
        r.memory = order.flatMap (fun k => (g.get k).resources.memory) ∧
        r.dma = order.flatMap fun k => (g.get k).resources.dma) ∧
      t.folded m = .ok order.tail := by
  refine ⟨exists_congr fun order => walkEnds_iff_enumerates, fun order h => ?_⟩
  have henum := walkEnds_iff_enumerates.1 h
  have hc := not_circles_of_walkEnds h
  obtain rfl := group_eq_of_walkEnds h
  exact ⟨henum, fun order' henum' => henum'.unique henum, members_eq hc,
    ⟨_, resources_eq hc, memory_owned t m, dma_owned t m⟩, folded_eq hc⟩

/-- nothing is counted, and the walk from the application meets the log under both libraries -/
theorem walk_of_diamond :
    ∃ order r, (∅ : Tally diamond).WalkEnds [0] order ∧ order = [0, 1, 3, 2, 3] ∧
      (∅ : Tally diamond).Enumerates 0 order ∧ (∅ : Tally diamond).resources 0 = .ok r ∧
      r.memory = [⟨16, 16, 1⟩, ⟨32, 32, 1⟩, ⟨48, 48, 1⟩, ⟨32, 32, 1⟩] ∧
      r.dma = [⟨64, 1⟩, ⟨32, 1⟩] ∧ (∅ : Tally diamond).folded 0 = .ok [1, 3, 2, 3] := by
  have hw : (∅ : Tally diamond).WalkEnds [0] [0, 1, 3, 2, 3] :=
    members?_eq_some_iff.1 (by cbv)
  obtain ⟨henum, -, -, ⟨r, hr, hmemory, hdma⟩, hfolded⟩ :=
    (walk_is_a_recursion diamond ∅ 0).2 _ hw
  exact ⟨_, r, hw, rfl, henum, hr, hmemory, hdma, hfolded⟩

end Tally

end ServiceBoundary
