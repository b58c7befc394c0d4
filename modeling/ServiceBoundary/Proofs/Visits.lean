import ServiceBoundary.Proofs.Selection

/-!
# The effect of a visit

A visit may start in any state: modules may be counted that were never expanded, and the dependencies
of a module that is not counted may be counted or not. The loop goes on where it finds a zero, and it
overwrites the zeros as it goes. What it does can be said from the state before: it opens the modules
that the visited one leads to through modules not counted, the visited one among them, and it counts
each dependency of each of these once.

Visits in any order open the same modules. What an earlier visit has opened a later one does not open
again, and where a later one is stopped by a module that is counted by now, the earlier one has gone
on from there. So visits commute.

* `region`, `mem_region`   the modules that a visit opens;
* `count_visit`            the counts after a visit;
* `visitAll_perm`          the order of visits does not matter;
* `effect_of_a_visit`      all of this for single visits.
-/

namespace ServiceBoundary
open Relation

namespace Tally
open ModuleGraph (knot)
variable {g : ModuleGraph} {t : Tally g} {m p k : Fin g.size} {stack rest : List (Fin g.size)}

/-! ## what a visit opens -/

/-- a visit that opens the first module opens the second one, too -/
def Passes (t : Tally g) (p d : Fin g.size) : Prop := g.Uses p d ∧ t.count d = 0

/-- the modules that a visit opens -/
def region (t : Tally g) (m : Fin g.size) : Finset (Fin g.size) := (t.opened [m]).toFinset

theorem opens_singleton_iff :
    t.Opens [m] p ↔ t.count m = 0 ∧ ReflTransGen t.Passes m p := by
  constructor
  · intro h
    induction h with
    | here hx hx0 =>
      obtain rfl := List.mem_singleton.1 hx
      exact ⟨hx0, ReflTransGen.refl⟩
    | next _ huses hx0 ih => exact ⟨ih.1, ih.2.tail ⟨huses, hx0⟩⟩
  · rintro ⟨hm, hmp⟩
    induction hmp with
    | refl => exact Opens.here List.mem_cons_self hm
    | tail _ hstep ih => exact ih.next hstep.1 hstep.2

/-- **A visit opens what the module leads to through modules that are not counted.** -/
theorem mem_region : p ∈ t.region m ↔ t.count m = 0 ∧ ReflTransGen t.Passes m p := by
  rw [region, List.mem_toFinset, mem_opened_iff_opens, opens_singleton_iff]

theorem region_of_ne_zero (h : t.count m ≠ 0) : t.region m = ∅ := by
  rw [Finset.eq_empty_iff_forall_notMem]
  intro p hp
  exact h (mem_region.1 hp).1

theorem count_visit (t : Tally g) (m k : Fin g.size) :
    (t.visit m).count k =
      t.count k + (if k = m then 1 else 0) + ((t.region m).filter (g.Uses · k)).card := by
  have hregion : (t.region m).filter (g.Uses · k) =
      Finset.univ.filter fun p => p ∈ t.opened [m] ∧ g.Uses p k := by
    ext p
    simp [region]
  have hstack : [m].count k = if k = m then 1 else 0 := by
    rw [List.count_singleton]
    simp only [beq_iff_eq, eq_comm (a := m)]
  change (t.visitAll [m]).count k = _
  rw [count_visitAll, countP_opened, hregion, hstack]

/-! ## the order of visits -/

theorem Opens.mono (h : t.Opens stack k) (hsub : stack ⊆ rest) : t.Opens rest k := by
  induction h with
  | here hx hx0 => exact Opens.here (hsub hx) hx0
  | next _ huses hx0 ih => exact ih.next huses hx0

theorem opened_perm (h : stack.Perm rest) : (t.opened stack).Perm (t.opened rest) := by
  refine (List.perm_ext_iff_of_nodup (nodup_opened t stack) (nodup_opened t rest)).2 fun k => ?_
  rw [mem_opened_iff_opens, mem_opened_iff_opens]
  exact ⟨fun hk => hk.mono h.subset, fun hk => hk.mono h.symm.subset⟩

/-- **The order of visits does not matter.** -/
theorem visitAll_perm (h : stack.Perm rest) : t.visitAll stack = t.visitAll rest := by
  refine Tally.ext (fun k => ?_) ?_
  · rw [count_visitAll, count_visitAll, h.count_eq, (opened_perm h).countP_eq]
  · rw [roots_visitAll, roots_visitAll]

/-- **The effect of a visit.** A visit may start in any state. The modules that it opens are those
that the visited module leads to through modules not counted, itself among them; none, if it is
counted. It adds one to the visited module, and to each module one for each opened module that
depends on it, and it changes nothing else. As long as the counts that it leaves fit into 32 bits,
so does every count on the way. Two visits leave the same state in both orders. -/
theorem effect_of_a_visit (g : ModuleGraph) (t : Tally g) :
    (∀ m, (∀ p, p ∈ t.region m ↔
        t.count m = 0 ∧ ReflTransGen (fun q d => g.Uses q d ∧ t.count d = 0) m p) ∧
      (t.count m ≠ 0 → t.region m = ∅) ∧
      (∀ k, (t.visit m).count k =
        t.count k + (if k = m then 1 else 0) + ((t.region m).filter (g.Uses · k)).card) ∧
      (t.visit m).roots = t.roots ∧
      ((∀ k, (t.visit m).count k < 2 ^ 32) → ∀ u k rest,
        ReflTransGen Turn (t, [m]) (u, k :: rest) → (u.bump k).count k < 2 ^ 32)) ∧
    ∀ a b, (t.visit a).visit b = (t.visit b).visit a := by
  refine ⟨fun m => ⟨fun p => mem_region, region_of_ne_zero, count_visit t m,
    roots_visitAll t [m], ?_⟩, fun a b => ?_⟩
  · intro hword u k rest hturns
    exact (count_bump_le_count_visitAll hturns).trans_lt (hword k)
  · calc (t.visit a).visit b = t.visitAll [a, b] := (visitAll_append t [a] [b]).symm
      _ = t.visitAll [b, a] := visitAll_perm (List.Perm.swap b a [])
      _ = (t.visit b).visit a := visitAll_append t [b] [a]

/-- the stack is counted and was never expanded, so a visit of the application stops there -/
theorem visits_of_knot :
    (∀ p, p ∈ (⟨#v[0, 2, 0, 0, 0], [1]⟩ : Tally knot).region 0 ↔ p = 0 ∨ p = 2) ∧
    ((⟨#v[0, 2, 0, 0, 0], [1]⟩ : Tally knot).visit 0).visits = #v[1, 3, 2, 0, 0] ∧
    ((⟨#v[0, 2, 0, 0, 0], [1]⟩ : Tally knot).visit 0).count 2 =
      0 + 0 + (((⟨#v[0, 2, 0, 0, 0], [1]⟩ : Tally knot).region 0).filter (knot.Uses · 2)).card ∧
    (((⟨#v[0, 2, 0, 0, 0], [1]⟩ : Tally knot).visit 3).visit 0) =
      ((⟨#v[0, 2, 0, 0, 0], [1]⟩ : Tally knot).visit 0).visit 3 := by
  obtain ⟨hvisit, hcomm⟩ := effect_of_a_visit knot ⟨#v[0, 2, 0, 0, 0], [1]⟩
  obtain ⟨-, -, hcount, -⟩ := hvisit 0
  have hregion : (⟨#v[0, 2, 0, 0, 0], [1]⟩ : Tally knot).opened [0] = [0, 2] := by cbv
  refine ⟨fun p => ?_, by cbv, hcount 2, hcomm 3 0⟩
  rw [region, hregion]
  simp

end Tally

end ServiceBoundary
