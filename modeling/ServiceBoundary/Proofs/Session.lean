import ServiceBoundary.Proofs.Demand
import ServiceBoundary.Proofs.Planning
import ServiceBoundary.Proofs.Words

/-!
# Orderly sessions

A session visits modules, promotes modules, and starts anew, in any order. It is orderly if it only
promotes modules that are counted already. Each of its tallies is accounted for, so no walk from a
counted module runs in a circle, whatever circles the dependencies have; the tally of a selection is
one of them.

* `Orderly.exists_accounted`   an orderly session keeps account;
* `orderly_ofRoots`            so does a selection;
* `Counters.Orderly`           the same sessions in words, with checks that do not break them off;
* `walks_of_orderly_sessions`  which walks end, in any state and in those of orderly sessions.
-/

namespace ServiceBoundary
open Relation

namespace Tally
open ModuleGraph (knot)
variable {g : ModuleGraph} {t : Tally g} {names : List String}

/-- the tallies of sessions that promote counted modules only -/
inductive Orderly : Tally g → Prop
  | empty : Orderly ∅
  | visit {t : Tally g} (m : Fin g.size) : Orderly t → Orderly (t.visit m)
  | promote {t : Tally g} (ms : List (Fin g.size)) : Orderly t → (∀ m ∈ ms, t.count m ≠ 0) →
      Orderly (t.promote ms)
  | reset {t : Tally g} : Orderly t → Orderly t.reset

theorem Orderly.exists_accounted (h : t.Orderly) : ∃ asked, t.Accounted asked := by
  induction h with
  | empty => exact ⟨[], Accounted.empty⟩
  | visit m _ ih =>
    obtain ⟨asked, ht⟩ := ih
    exact ⟨m :: asked, ht.visit m⟩
  | promote ms _ hms ih =>
    obtain ⟨asked, ht⟩ := ih
    exact ⟨asked, ht.promote hms⟩
  | reset =>
    rw [reset_eq_empty]
    exact ⟨[], Accounted.empty⟩

theorem Orderly.foldl_visit (h : t.Orderly) (ms : List (Fin g.size)) :
    (ms.foldl Tally.visit t).Orderly := by
  induction ms generalizing t with
  | nil => exact h
  | cons m ms ih => exact ih (h.visit m)

theorem orderly_ofRoots (h : ofRoots g names = .ok t) : t.Orderly := by
  obtain ⟨-, ids, -, rfl⟩ := ofRoots_eq_ok_iff.1 h
  refine Orderly.promote ids ?_ fun m hm => count_visitAll_ne_zero_of_mem ∅ hm
  rw [visitAll_eq_foldl]
  exact Orderly.empty.foldl_visit ids

theorem Orderly.not_circles (h : t.Orderly) {m : Fin g.size} (hm : t.count m ≠ 0) :
    ¬ t.Circles m := by
  obtain ⟨asked, ht⟩ := h.exists_accounted
  exact ht.not_circles hm

end Tally

/-! ## sessions in words -/

namespace Counters
variable {g : ModuleGraph} {c : Counters g}

/-- the counters of sessions that promote counted modules only and are not broken off by checks -/
inductive Orderly : Counters g → Prop
  | empty : Orderly ∅
  | visit {c : Counters g} {l : List (Fin g.size)} {u : Trace g} (m : Fin g.size) : Orderly c →
      Trace.Ends .stops ⟨c, l⟩ [m] (.ok u) → Orderly u.counters
  | promote {c : Counters g} (ms : List (Fin g.size)) : Orderly c → (∀ m ∈ ms, c.count m ≠ 0) →
      Orderly (c.promote ms)
  | reset {c : Counters g} : Orderly c → Orderly c.reset

/-- each step in words is the step in numbers -/
theorem Orderly.exists_tally (h : c.Orderly) :
    ∃ t : Tally g, t.Orderly ∧ t.Fits ∧ t.words = c := by
  induction h with
  | empty => exact ⟨∅, Tally.Orderly.empty, Tally.fits_empty, Tally.words_empty⟩
  | @visit c l u m _ hvisit ih =>
    obtain ⟨t, ht, hfits, rfl⟩ := ih
    obtain rfl := Tally.eq_of_ends hfits hvisit
    exact ⟨t.visit m, ht.visit m, Tally.fits_of_ends hfits hvisit, rfl⟩
  | promote ms _ hms ih =>
    obtain ⟨t, ht, hfits, rfl⟩ := ih
    have hne : ∀ m ∈ ms, t.count m ≠ 0 := fun m hm => Tally.count_ne_zero_of_words (hms m hm)
    exact ⟨_, ht.promote ms hne, hfits.promote ms, Tally.words_promote hfits ms⟩
  | reset _ ih =>
    obtain ⟨t, ht, -, rfl⟩ := ih
    refine ⟨_, ht.reset, ?_, Tally.words_reset t⟩
    rw [Tally.reset_eq_empty]
    exact Tally.fits_empty

theorem Orderly.tally (h : c.Orderly) : c.tally.Orderly := by
  obtain ⟨t, ht, hfits, rfl⟩ := h.exists_tally
  rwa [Tally.tally_words hfits]

end Counters

namespace Tally
open ModuleGraph (knot)
variable {g : ModuleGraph}

/-- **Which walks end.** In any state, the walk from a module ends if and only if no circle of
modules that count less than two can be entered from it, and then it is the walk that is computed.
In the states of an orderly session, those of selections among them, every circle of counted modules
has a service in it; so all answers about counted modules are there, and so is the plan, under both
policies. The counters of sessions and of runs hold such states, as long as no count passes
`2 ^ 32 - 1`. -/
theorem walks_of_orderly_sessions (g : ModuleGraph) :
    (∀ (t : Tally g) (m : Fin g.size),
      ((∃ order, t.WalkEnds [m] order) ↔
        ¬ ∃ c, g.IsCycle c ∧ (∀ x ∈ c, t.count x < 2) ∧ ∃ x ∈ c, ReflTransGen t.Enters m x) ∧
      ∀ order, t.members? m = some order ↔ t.WalkEnds [m] order) ∧
    (∀ names (t : Tally g), ofRoots g names = .ok t → t.Orderly) ∧
    (∀ c : Counters g, c.Orderly ∨ (∃ names, Counters.OfRoots .stops names c) →
      c.tally.Orderly) ∧
    ∀ t : Tally g, t.Orderly →
      (∀ c, g.IsCycle c → (∀ x ∈ c, t.count x ≠ 0) → ∃ x ∈ c, 2 ≤ t.count x) ∧
      (∀ m, t.count m ≠ 0 → (∃ order, t.WalkEnds [m] order) ∧ (∃ r, t.resources m = .ok r) ∧
        (∃ ms, t.folded m = .ok ms) ∧ ∀ policy, ∃ fs, t.flags m policy = .ok fs) ∧
      ∀ policy, (∃ plan, t.plan policy = .ok plan) ∨
        t.plan policy = .error .emptySelection ∧ t.standalone = [] := by
  refine ⟨fun t m => ⟨exists_walkEnds_iff, fun order => members?_eq_some_iff⟩,
    fun names t => orderly_ofRoots, fun c hc => ?_,
    fun t ht => ⟨?_, fun m hm => ?_, fun policy => ?_⟩⟩
  · rcases hc with hc | ⟨names, hrun⟩
    · exact hc.tally
    · obtain ⟨t, ht, hfits, rfl⟩ := exists_ofRoots_of_checked hrun
      rw [tally_words hfits]
      exact orderly_ofRoots ht
  · obtain ⟨asked, ha⟩ := ht.exists_accounted
    exact fun c hc hne => ha.exists_two_le_of_isCycle hc hne
  · have h := ht.not_circles hm
    exact ⟨exists_walkEnds_iff.2 h, ⟨_, resources_eq h⟩, ⟨_, folded_eq h⟩,
      fun policy => ⟨_, flags_eq h policy⟩⟩
  · by_cases hs : t.standalone = []
    · exact Or.inr ⟨plan_eq_error hs policy, hs⟩
    · have h : ∀ m, 1 < t.count m → ¬ t.Circles m := fun m hm => ht.not_circles (by omega)
      exact Or.inl ⟨_, plan_eq_ok h hs policy⟩

theorem walks_of_knot :
    (∃ t, ofRoots knot ["app", "app"] = .ok t ∧ t.Orderly ∧ (∃ x ∈ [1, 3], 2 ≤ t.count x) ∧
      (∃ order, t.WalkEnds [1] order) ∧ ∃ plan, t.plan .transitive = .ok plan) ∧
    ¬ ∃ order, (∅ : Tally knot).WalkEnds [1] order := by
  obtain ⟨hwalk, hofRoots, -, horderly⟩ := walks_of_orderly_sessions knot
  have ht := hofRoots _ _ ofRoots_knot
  obtain ⟨hcycle, hends, hplan⟩ := horderly _ ht
  refine ⟨⟨_, ofRoots_knot, ht, hcycle [1, 3] ?_ (by decide), (hends 1 (by decide)).1,
    (hplan .transitive).resolve_right fun h => absurd h.2 (by decide)⟩, ?_⟩
  · change List.IsChain knot.Uses [1, 3, 1]
    decide
  · rw [(hwalk ∅ 1).1, not_not]
    refine ⟨[1, 3], ?_, by decide, 1, by decide, ReflTransGen.refl⟩
    change List.IsChain knot.Uses [1, 3, 1]
    decide

end Tally

end ServiceBoundary
