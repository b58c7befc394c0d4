import Mathlib
import ServiceBoundary.Proofs.Propagation
import ServiceBoundary.Proofs.Results

/-!
# The counts of a selection

A selection is a list of names. `Tally.ofRoots` looks them up, visits the modules one after the
other, and promotes them.

* `ModuleGraph.needed`   the modules that a selection leads to;
* `ModuleGraph.users`    those of them that depend on a module;
* `findRoots_eq_ok_iff`, `ofRoots_eq_ok_iff`   when there is a tally, and which;
* `count_visitAll_empty`   before the promotion, a count is the number of times that the module was
  named and the number of its users;
* `counts_of_selection`   the counts of a selection, for any graph and any list of declared names.

`ModuleGraph.knot` is a small graph with circles, for examples.
-/

namespace ServiceBoundary
open Relation

namespace ModuleGraph
variable {g : ModuleGraph} {names : List String} {ids : List (Fin g.size)} {m k : Fin g.size}

/-! ## the modules of a selection -/

theorem name_injective (g : ModuleGraph) : Function.Injective g.name := fun _ _ h => g.name_inj.1 h

theorem findRoots_eq_ok_iff : g.findRoots names = .ok ids ↔ ids.map g.name = names := by
  have look_up : g.findRoots names = .ok ids ↔
      List.Forall₂ (fun n m => n = g.name m) names ids := by
    rw [findRoots, mapM_eq_ok_iff]
    apply iff_of_eq
    congr 1
    funext n m
    rw [eq_comm (a := n), ← g.find?_eq_some_iff]
    cases g.find? n <;> simp
  rw [look_up, ← List.forall₂_map_right_iff, List.forall₂_eq_eq_eq, eq_comm]

theorem exists_findRoots (h : ∀ n ∈ names, ∃ m, g.name m = n) :
    ∃ ids : List (Fin g.size), ids.map g.name = names := by
  have : names ∈ Set.range (List.map g.name) := by
    rw [Set.range_list_map]
    exact h
  exact this

theorem mem_iff_of_map_name (h : ids.map g.name = names) : m ∈ ids ↔ g.name m ∈ names := by
  rw [← h, List.mem_map_of_injective g.name_injective]

theorem count_eq_of_map_name (h : ids.map g.name = names) :
    ids.count m = names.count (g.name m) := by
  rw [← h, List.count_map_of_injective ids g.name g.name_injective]

theorem mem_opened_iff_needed (h : ids.map g.name = names) :
    m ∈ (∅ : Tally g).opened ids ↔ g.Needed names m := by
  rw [Tally.mem_opened_iff_opens, Tally.opens_empty_iff]
  simp only [mem_iff_of_map_name h]
  rfl

/-- what a selection needs can be computed by visiting its roots -/
instance (names : List String) : DecidablePred (g.Needed names) := fun m =>
  decidable_of_iff
    (((∅ : Tally g).visitAll (g.ids.filter fun r => g.name r ∈ names)).count m ≠ 0) <| by
    rw [Tally.count_visitAll_ne_zero_iff, Tally.mem_opened_iff_opens, Tally.opens_empty_iff]
    simp [Needed]

/-- the modules that the selection leads to -/
def needed (g : ModuleGraph) (names : List String) : Finset (Fin g.size) :=
  Finset.univ.filter (g.Needed names)

/-- the modules of the selection that depend on the module -/
def users (g : ModuleGraph) (names : List String) (m : Fin g.size) : Finset (Fin g.size) :=
  (g.needed names).filter (g.Uses · m)

@[simp] theorem mem_needed : m ∈ g.needed names ↔ g.Needed names m := by
  simp [needed]

@[simp] theorem mem_users : k ∈ g.users names m ↔ g.Needed names k ∧ g.Uses k m := by
  simp [users]

/-! ## an example -/

/-- An application, which a test depends on, uses a network stack and a log. The stack and its
driver depend on each other, and the log on itself. -/
def knot : ModuleGraph where
  size := 5
  modules := #v[
    { name := "app", source := "app.elf", resources := { memory := [⟨16, 16, 1⟩] }, flags := [],
      dependencies := [1, 2], dependencies_nodup := by decide },
    { name := "net", source := "net.elf", resources := {}, flags := ["-lnet"],
      dependencies := [2, 3], dependencies_nodup := by decide },
    { name := "log", source := "log.elf", resources := { memory := [⟨32, 32, 1⟩] }, flags := [],
      dependencies := [2], dependencies_nodup := by decide },
    { name := "nic", source := "nic.elf",
      resources := { memory := [⟨16, 16, 1⟩], dma := [⟨64, 1⟩] }, flags := [],
      dependencies := [1], dependencies_nodup := by decide },
    { name := "test", source := "test.elf", resources := { memory := [⟨48, 48, 1⟩] }, flags := [],
      dependencies := [0], dependencies_nodup := by decide }]
  names_nodup := by decide

instance : NeZero knot.size := ⟨by decide⟩

end ModuleGraph

namespace Tally
open ModuleGraph (knot)
variable {g : ModuleGraph} {t : Tally g} {names : List String} {ids : List (Fin g.size)}
  {m k : Fin g.size}

/-! ## promotion -/

theorem count_promoteOne (t : Tally g) (m k : Fin g.size) :
    (t.promoteOne m).count k = if k = m then max 2 (t.count k) else t.count k := by
  change (if t.count m ≤ 1 then t.setCount m 2 else t).count k = _
  by_cases hk : k = m
  · subst hk
    split
    · rw [count_setCount, if_pos rfl, if_pos rfl]
      omega
    · rw [if_pos rfl]
      omega
  · rw [if_neg hk]
    split
    · rw [count_setCount, if_neg (Ne.symm hk)]
    · rfl

theorem count_promote (t : Tally g) (ms : List (Fin g.size)) (k : Fin g.size) :
    (t.promote ms).count k = if k ∈ ms then max 2 (t.count k) else t.count k := by
  induction ms generalizing t with
  | nil => rfl
  | cons m ms ih =>
    change ((t.promoteOne m).promote ms).count k = _
    rw [ih, count_promoteOne]
    by_cases hk : k = m
    · subst hk
      simp
    · simp [hk]

theorem count_le_count_promote (t : Tally g) (ms : List (Fin g.size)) (k : Fin g.size) :
    t.count k ≤ (t.promote ms).count k := by
  rw [count_promote]
  split
  · exact Nat.le_max_right _ _
  · exact Nat.le_refl _

/-! ## the tally of a selection -/

theorem ofRoots_eq_ok_iff :
    ofRoots g names = .ok t ↔ names ≠ [] ∧
      ∃ ids, ids.map g.name = names ∧ t = ((∅ : Tally g).visitAll ids).promote ids := by
  unfold ofRoots
  split
  case isTrue h =>
    rw [List.isEmpty_iff] at h
    simp [h]
  case isFalse h =>
    rw [List.isEmpty_iff] at h
    rw [bind_eq_ok_iff]
    constructor
    · rintro ⟨ids, hids, ht⟩
      exact ⟨h, ids, ModuleGraph.findRoots_eq_ok_iff.1 hids, (Except.ok.inj ht).symm⟩
    · rintro ⟨-, ids, hids, rfl⟩
      exact ⟨ids, ModuleGraph.findRoots_eq_ok_iff.2 hids, rfl⟩

/-- all but the test are needed; only the driver has no second user -/
theorem ofRoots_knot : ofRoots knot ["app", "app"] = .ok ⟨#v[2, 2, 3, 1, 0], [0]⟩ := by cbv

theorem count_visitAll_empty (h : ids.map g.name = names) (m : Fin g.size) :
    ((∅ : Tally g).visitAll ids).count m = names.count (g.name m) + (g.users names m).card := by
  rw [count_visitAll, countP_opened, count_empty, ModuleGraph.count_eq_of_map_name h, Nat.zero_add]
  congr 2
  ext p
  simp [ModuleGraph.mem_opened_iff_needed h]

theorem count_visitAll_empty_ne_zero_iff (h : ids.map g.name = names) :
    ((∅ : Tally g).visitAll ids).count m ≠ 0 ↔ g.Needed names m := by
  rw [count_visitAll_ne_zero_iff, ModuleGraph.mem_opened_iff_needed h]
  simp

theorem count_of_root (h : ids.map g.name = names) (hm : g.name m ∈ names) :
    (((∅ : Tally g).visitAll ids).promote ids).count m =
      max 2 (names.count (g.name m) + (g.users names m).card) := by
  rw [count_promote, if_pos ((ModuleGraph.mem_iff_of_map_name h).2 hm), count_visitAll_empty h]

theorem count_of_not_root (h : ids.map g.name = names) (hm : g.name m ∉ names) :
    (((∅ : Tally g).visitAll ids).promote ids).count m = (g.users names m).card := by
  rw [count_promote, if_neg fun hm' => hm ((ModuleGraph.mem_iff_of_map_name h).1 hm'),
    count_visitAll_empty h, List.count_eq_zero_of_not_mem hm, Nat.zero_add]

theorem count_ne_zero_iff_needed (h : ids.map g.name = names) :
    (((∅ : Tally g).visitAll ids).promote ids).count m ≠ 0 ↔ g.Needed names m := by
  rw [← count_visitAll_empty_ne_zero_iff h, count_promote]
  split
  case isTrue hm =>
    have := count_visitAll_ne_zero_of_mem ∅ hm
    omega
  case isFalse => exact Iff.rfl

theorem count_visitAll_empty_le (ids : List (Fin g.size)) (m : Fin g.size) :
    ((∅ : Tally g).visitAll ids).count m ≤ ids.length + g.size := by
  have hd := count_add_demand ∅ ids m
  have hs := demand_le_size ((∅ : Tally g).visitAll ids) m
  have hl : ids.count m ≤ ids.length := List.count_le_length
  rw [demand_empty, count_empty] at hd
  omega

theorem count_bump_le_of_turns {u : Tally g} {stack : List (Fin g.size)}
    (h : ReflTransGen Turn (∅, ids) (u, m :: stack)) :
    (u.bump m).count m ≤ ids.length + g.size :=
  (count_bump_le_count_visitAll h).trans (count_visitAll_empty_le ids m)

/-- **The counts of a selection.** The roots are visited one after the other, each by a loop that
ends, and then promoted. A module is counted if and only if some root leads to it; its count is the
number of needed modules that depend on it, to which a root adds the number of times that it was
named, and a root counts at least two. As long as there are fewer than `2 ^ 32` roots and modules
together, no count ever needs more than 32 bits. -/
theorem counts_of_selection (g : ModuleGraph) (names : List String) (hne : names ≠ [])
    (hnames : ∀ n ∈ names, ∃ m, g.name m = n) :
    ∃ ids t, g.findRoots names = .ok ids ∧ ofRoots g names = .ok t ∧
      t = (ids.foldl visit ∅).promote ids ∧
      ReflTransGen Turn (∅, ids) (ids.foldl visit ∅, []) ∧
      (∀ m, t.count m = 0 ↔ ¬ g.Needed names m) ∧
      (∀ m, g.name m ∉ names → t.count m = (g.users names m).card) ∧
      (∀ m, g.name m ∈ names →
        t.count m = max 2 (names.count (g.name m) + (g.users names m).card)) ∧
      (∀ m, t.role m = .standalone ↔ g.name m ∈ names ∨ 2 ≤ (g.users names m).card) ∧
      (names.length + g.size + 1 < 2 ^ 32 →
        (∀ u m stack, ReflTransGen Turn (∅, ids) (u, m :: stack) → (u.bump m).count m < 2 ^ 32) ∧
        ∀ m, t.count m < 2 ^ 32) := by
  obtain ⟨ids, h⟩ := ModuleGraph.exists_findRoots hnames
  have hlen : ids.length = names.length := by rw [← h, List.length_map]
  have hroot : ∀ m, g.name m ∈ names → (((∅ : Tally g).visitAll ids).promote ids).count m =
      max 2 (names.count (g.name m) + (g.users names m).card) := fun m => count_of_root h
  have hother : ∀ m, g.name m ∉ names → (((∅ : Tally g).visitAll ids).promote ids).count m =
      (g.users names m).card := fun m => count_of_not_root h
  refine ⟨ids, ((∅ : Tally g).visitAll ids).promote ids, ModuleGraph.findRoots_eq_ok_iff.2 h,
    ofRoots_eq_ok_iff.2 ⟨hne, ids, h, rfl⟩, ?_, ?_, ?_, hother, hroot, ?_, ?_⟩
  · rw [visitAll_eq_foldl]
  · rw [← visitAll_eq_foldl]
    exact turns_visitAll ∅ ids
  · intro m
    rw [← count_ne_zero_iff_needed h, not_not]
  · intro m
    rw [role_eq_standalone_iff]
    by_cases hm : g.name m ∈ names
    · rw [hroot m hm]
      simp [hm]
    · rw [hother m hm, or_iff_right hm]
      exact Nat.lt_iff_add_one_le
  · intro hsize
    refine ⟨fun u m stack hu => ?_, fun m => ?_⟩
    · have := count_bump_le_of_turns hu
      omega
    · have := count_visitAll_empty_le ids m
      rw [count_promote]
      split <;> omega

theorem counts_of_knot :
    ["app", "app"] ≠ [] ∧ (∀ n ∈ ["app", "app"], ∃ m, knot.name m = n) ∧
      ∃ t, ofRoots knot ["app", "app"] = .ok t ∧ t.visits = #v[2, 2, 3, 1, 0] ∧
        ¬ knot.Needed ["app", "app"] 4 ∧ (knot.users ["app", "app"] 1).card = 2 ∧
        (knot.users ["app", "app"] 2).card = 3 ∧ (knot.users ["app", "app"] 3).card = 1 ∧
        max 2 (2 + (knot.users ["app", "app"] 0).card) = 2 ∧
        t.role 1 = .standalone ∧ ∀ m, t.count m < 2 ^ 32 := by
  have hnames : ∀ n ∈ ["app", "app"], ∃ m, knot.name m = n := by decide
  obtain ⟨_, t, -, ht, -, -, hzero, hother, hroot, hrole, hword⟩ :=
    counts_of_selection knot ["app", "app"] (by decide) hnames
  obtain rfl : ⟨#v[2, 2, 3, 1, 0], [0]⟩ = t := Except.ok.inj (ofRoots_knot.symm.trans ht)
  exact ⟨by decide, hnames, _, ht, rfl, (hzero 4).1 rfl, (hother 1 (by decide)).symm,
    (hother 2 (by decide)).symm, (hother 3 (by decide)).symm, (hroot 0 (by decide)).symm,
    (hrole 1).2 (Or.inr (hother 1 (by decide)).le), (hword (by decide)).2⟩

end Tally

end ServiceBoundary
