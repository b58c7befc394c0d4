import ServiceBoundary.Proofs.Ownership
import ServiceBoundary.Proofs.Words

/-!
# Selections compared

All that a walk asks of a tally is which modules are services. If a second tally has the services of
the first one and more, its walks are parts of the first one's walks, in the same order: where it
meets one of the new services it turns back, and the rest is as before. With the same services the
walks are the same, and so is the plan.

Which modules of a selection are services is decided by the set of its names, and more names never
make fewer services.

* `WalkEnds.exists_sublist`   with more services, a walk is a part of what it was;
* `group_sublist`, `group_congr`   one module under two tallies;
* `plan_congr`                with the same services, a plan is the same or fails in the same way;
* `count_ofRoots`, `mem_standalone_ofRoots`   counts and services, read off the list of names;
* `root_order_is_irrelevant`   the order of the roots and their repetition change nothing;
* `more_roots_split_services`   with more roots, a service keeps a part of what it had.
-/

namespace ServiceBoundary
open Relation

namespace ModuleGraph
variable {g : ModuleGraph} {names names' : List String} {m : Fin g.size}

theorem Needed.mono (hsub : names ⊆ names') (hm : g.Needed names m) : g.Needed names' m := by
  obtain ⟨r, hr, hrm⟩ := hm
  exact ⟨r, hsub hr, hrm⟩

theorem users_subset (hsub : names ⊆ names') (m : Fin g.size) :
    g.users names m ⊆ g.users names' m := by
  intro p hp
  rw [mem_users] at hp ⊢
  exact ⟨hp.1.mono hsub, hp.2⟩

theorem users_congr (hmem : ∀ n, n ∈ names ↔ n ∈ names') (m : Fin g.size) :
    g.users names m = g.users names' m :=
  (users_subset (fun n => (hmem n).1) m).antisymm (users_subset (fun n => (hmem n).2) m)

end ModuleGraph

namespace Tally
open ModuleGraph (knot)
variable {g : ModuleGraph} {t t' : Tally g} {m a : Fin g.size}
  {stack stack' order services : List (Fin g.size)} {names names' : List String}

/-! ## more services -/

theorem standalone_sublist (h : t.standalone ⊆ t'.standalone) :
    t.standalone.Sublist t'.standalone := by
  refine List.monotone_filter_right _ fun m hm => ?_
  have hmem : m ∈ t'.standalone := h (List.mem_filter.2 ⟨g.mem_ids m, hm⟩)
  exact (List.mem_filter.1 hmem).2

theorem standalone_congr (h : ∀ m, m ∈ t.standalone ↔ m ∈ t'.standalone) :
    t.standalone = t'.standalone :=
  (standalone_sublist fun m => (h m).1).antisymm (standalone_sublist fun m => (h m).2)

theorem folds_sublist (h : t.standalone ⊆ t'.standalone) (m : Fin g.size) :
    (t'.folds m).Sublist (t.folds m) := by
  refine List.monotone_filter_right _ fun d hd => ?_
  have hd' : d ∉ t'.standalone := by
    intro hmem
    have := (List.mem_filter.1 hmem).2
    rw [this] at hd
    cases hd
  have hdt : d ∉ t.standalone := fun hmem => hd' (h hmem)
  rw [standalone, List.mem_filter] at hdt
  simpa using hdt

/-- **With more services a walk gets shorter, and what is left keeps its order.** -/
theorem WalkEnds.exists_sublist (h : t.standalone ⊆ t'.standalone) (hw : t.WalkEnds stack order)
    (hs : stack'.Sublist stack) : ∃ order', t'.WalkEnds stack' order' ∧ order'.Sublist order := by
  induction hw generalizing stack' with
  | done =>
    rw [List.sublist_nil.1 hs]
    exact ⟨[], WalkEnds.done, List.Sublist.refl []⟩
  | @turn m stack order _ ih =>
    cases hs with
    | cons _ hs =>
      -- the second walk does not have this place: it was passed over before
      obtain ⟨order', hw', ho⟩ := ih (hs.trans (List.sublist_append_right _ _))
      exact ⟨order', hw', ho.cons m⟩
    | cons_cons _ hs =>
      obtain ⟨order', hw', ho⟩ := ih ((folds_sublist h m).append hs)
      exact ⟨m :: order', WalkEnds.turn hw', ho.cons_cons m⟩

section
variable (h : t.standalone ⊆ t'.standalone) (hm : ¬ t.Circles m)
include h hm

theorem not_circles_of_subset : ¬ t'.Circles m := by
  obtain ⟨order', hw', -⟩ := (walkEnds_group hm).exists_sublist h (List.Sublist.refl [m])
  exact not_circles_of_walkEnds hw'

theorem group_sublist : (t'.group m).Sublist (t.group m) := by
  obtain ⟨order', hw', hs⟩ := (walkEnds_group hm).exists_sublist h (List.Sublist.refl [m])
  rw [(walkEnds_group (not_circles_of_subset h hm)).unique hw']
  exact hs

theorem regions_owned_sublist {β : Type} {regions : Resources → List β}
    (hjoin : ∀ rs, regions (Resources.join rs) = rs.flatMap regions) :
    (regions (t'.owned m)).Sublist (regions (t.owned m)) := by
  rw [owned, owned, hjoin, hjoin]
  exact ((group_sublist h hm).map _).flatMap regions

end

/-! ## the same services -/

section
variable (h : t.standalone = t'.standalone) (hm : ¬ t.Circles m)
include h hm

theorem group_congr : t.group m = t'.group m := by
  have hsub : t.standalone ⊆ t'.standalone := fun a ha => h ▸ ha
  have hsub' : t'.standalone ⊆ t.standalone := fun a ha => h ▸ ha
  have hm' : ¬ t'.Circles m := not_circles_of_subset hsub hm
  exact (group_sublist hsub' hm').antisymm (group_sublist hsub hm)

theorem owned_congr : t.owned m = t'.owned m := by
  rw [owned, owned, group_congr h hm]

theorem composed_congr (policy : FlagPolicy) : t.composed policy m = t'.composed policy m := by
  cases policy with
  | «local» => simp only [composed, ownFlags, owned_congr h hm]
  | transitive => simp only [composed, ownFlags, owned_congr h hm, group_congr h hm]

end

section
variable (h : t.standalone = t'.standalone)
include h

theorem folds_congr (m : Fin g.size) : t.folds m = t'.folds m := by
  have hsub : t.standalone ⊆ t'.standalone := fun a ha => h ▸ ha
  have hsub' : t'.standalone ⊆ t.standalone := fun a ha => h ▸ ha
  exact (folds_sublist hsub' m).antisymm (folds_sublist hsub m)

theorem walk_congr (stack : List (Nat × Fin g.size)) : t.walk stack = t'.walk stack := by
  induction stack using walk_induction (t := t) with
  | nil => rw [walk, walk]
  | stuck m stack => rw [walk, walk]
  | turn n m stack ih => rw [walk_succ_cons, walk_succ_cons, ih, folds_congr h]

/-- **A plan asks nothing of a tally but which modules are services.** This holds in every state,
also where some walk has no end. -/
theorem plan_congr (policy : FlagPolicy) : t.plan policy = t'.plan policy := by
  have hmembers : t.members = t'.members := by
    funext m
    rw [members, members, members?, members?, walk_congr h]
  have hcomponent : t.component policy = t'.component policy := by
    funext m
    rw [component, component, resources, resources, hmembers]
    cases policy with
    | «local» => rfl
    | transitive => rw [flags, flags, hmembers]
  rw [plan, plan, h, hcomponent]

end

theorem role_congr (hzero : t.count m ≠ 0 ↔ t'.count m ≠ 0)
    (hservice : 1 < t.count m ↔ 1 < t'.count m) : t.role m = t'.role m := by
  unfold role
  split <;> split <;> first | rfl | omega

/-! ## the tally of a list of names -/

/-- the counts of a selection, as a function of the list of names -/
theorem count_ofRoots (h : ofRoots g names = .ok t) (m : Fin g.size) :
    t.count m =
      if g.name m ∈ names then max 2 (names.count (g.name m) + (g.users names m).card)
      else (g.users names m).card := by
  obtain ⟨-, ids, hids, rfl⟩ := ofRoots_eq_ok_iff.1 h
  split
  case isTrue hm => exact count_of_root hids hm
  case isFalse hm => exact count_of_not_root hids hm

theorem mem_standalone_ofRoots (h : ofRoots g names = .ok t) :
    m ∈ t.standalone ↔ g.name m ∈ names ∨ 2 ≤ (g.users names m).card := by
  rw [mem_standalone, count_ofRoots h]
  split
  case isTrue hm =>
    simp only [hm, true_or, iff_true]
    omega
  case isFalse hm =>
    simp only [hm, false_or]
    omega

theorem standalone_ofRoots_subset (h : ofRoots g names = .ok t) (h' : ofRoots g names' = .ok t')
    (hsub : names ⊆ names') : t.standalone ⊆ t'.standalone := by
  intro m hm
  rw [mem_standalone_ofRoots h] at hm
  rw [mem_standalone_ofRoots h']
  refine hm.imp (fun hroot => hsub hroot) fun hcard => ?_
  exact hcard.trans (Finset.card_le_card (ModuleGraph.users_subset hsub m))

section
variable (h : ofRoots g names = .ok t)
include h

theorem count_ofRoots_ne_zero_iff : t.count m ≠ 0 ↔ g.Needed names m := by
  obtain ⟨-, -, -, hneeded, -⟩ := settled_ofRoots h
  exact hneeded m

theorem not_circles_ofRoots (hm : g.Needed names m) : ¬ t.Circles m := by
  obtain ⟨_, -, hs, hneeded, -⟩ := settled_ofRoots h
  exact hs.not_circles ((hneeded m).2 hm)

theorem needed_of_mem_standalone (ha : a ∈ t.standalone) : g.Needed names a :=
  (count_ofRoots_ne_zero_iff h).1 (count_ne_zero_of_mem_standalone ha)

theorem plan_ofRoots (policy : FlagPolicy) :
    t.plan policy = .ok { components := t.standalone.map (t.composed policy) } := by
  obtain ⟨_, -, hs, -, hne⟩ := settled_ofRoots h
  exact plan_eq_ok (fun m hm => hs.not_circles (by omega)) hne policy

end

theorem component?_map_composed (ha : a ∈ services) (policy : FlagPolicy) :
    (ServicePlan.mk (services.map (t.composed policy))).component? (g.name a) =
      some (t.composed policy a) := by
  rw [ServicePlan.component?]
  induction services with
  | nil => cases ha
  | cons b bs ih =>
    rw [List.map_cons, List.find?_cons]
    by_cases hb : b = a
    · subst hb
      have hname : ((t.composed policy b).name == g.name b) = true := beq_self_eq_true (g.name b)
      rw [hname]
    · have hname : ((t.composed policy b).name == g.name a) = false :=
        beq_false_of_ne fun h => hb (g.name_inj.1 h)
      rw [hname]
      exact ih ((List.mem_cons.1 ha).resolve_left (Ne.symm hb))

/-! ## two selections -/

/-- **The order of the roots and their repetition change nothing.** Lists that are permutations of
each other lead to the same counts. Lists that name the same roots, in any order and any number of
times, lead to the same roles, the same services, the same walks from all needed modules and, under
each policy, the same plan. The counters of the two runs hold these tallies. -/
theorem root_order_is_irrelevant (g : ModuleGraph) (names names' : List String) (t t' : Tally g)
    (h : ofRoots g names = .ok t) (h' : ofRoots g names' = .ok t') :
    (t.KeptInWords names ∧ t'.KeptInWords names') ∧
    (names.Perm names' → ∀ m, t.count m = t'.count m) ∧
    ((∀ n, n ∈ names ↔ n ∈ names') →
      (∀ m, t.role m = t'.role m) ∧
      t.standalone = t'.standalone ∧
      (∀ m, g.Needed names m →
        (∃ r, t.resources m = .ok r ∧ t'.resources m = .ok r) ∧
        ∃ ms, t.folded m = .ok ms ∧ t'.folded m = .ok ms) ∧
      ∀ policy, ∃ plan, t.plan policy = .ok plan ∧ t'.plan policy = .ok plan) := by
  refine ⟨⟨keptInWords_ofRoots h, keptInWords_ofRoots h'⟩, ?_, ?_⟩
  · intro hperm m
    have husers := ModuleGraph.users_congr (fun n => hperm.mem_iff) m
    rw [count_ofRoots h, count_ofRoots h', husers, hperm.count_eq]
    simp only [hperm.mem_iff]
  · intro hmem
    have hneeded : ∀ m, g.Needed names m ↔ g.Needed names' m := fun m =>
      ⟨fun hm => hm.mono fun n => (hmem n).1, fun hm => hm.mono fun n => (hmem n).2⟩
    have hservice : ∀ m, m ∈ t.standalone ↔ m ∈ t'.standalone := fun m =>
      ⟨fun hm => standalone_ofRoots_subset h h' (fun n => (hmem n).1) hm,
        fun hm => standalone_ofRoots_subset h' h (fun n => (hmem n).2) hm⟩
    have heq : t.standalone = t'.standalone := standalone_congr hservice
    refine ⟨fun m => ?_, heq, fun m hm => ?_, fun policy => ?_⟩
    · refine role_congr ?_ ?_
      · rw [count_ofRoots_ne_zero_iff h, count_ofRoots_ne_zero_iff h', hneeded]
      · rw [← mem_standalone, ← mem_standalone, hservice]
    · have hc := not_circles_ofRoots h hm
      have hc' := not_circles_ofRoots h' ((hneeded m).1 hm)
      refine ⟨⟨t.owned m, resources_eq hc, ?_⟩, (t.group m).tail, folded_eq hc, ?_⟩
      · rw [resources_eq hc', owned_congr heq hc]
      · rw [folded_eq hc', group_congr heq hc]
    · refine ⟨_, plan_ofRoots h policy, ?_⟩
      have hparts : t'.standalone.map (t'.composed policy) =
          t.standalone.map (t.composed policy) := by
        rw [← heq]
        refine List.map_congr_left fun a ha => ?_
        have hc : ¬ t.Circles a := not_circles_ofRoots h (needed_of_mem_standalone h ha)
        exact (composed_congr heq hc policy).symm
      rw [plan_ofRoots h', hparts]

theorem root_order_of_knot :
    ∃ t t₁ t₂, ofRoots knot ["app", "net"] = .ok t ∧ ofRoots knot ["net", "app"] = .ok t₁ ∧
      ofRoots knot ["net", "app", "net"] = .ok t₂ ∧ (∀ m, t.count m = t₁.count m) ∧
      t.count 1 ≠ t₂.count 1 ∧ t.roots ≠ t₂.roots ∧ t.standalone = t₂.standalone ∧
      (∀ m, t.role m = t₂.role m) ∧
      ∃ plan, t.plan .transitive = .ok plan ∧ t₂.plan .transitive = .ok plan := by
  have h : ofRoots knot ["app", "net"] = .ok ⟨#v[2, 3, 3, 1, 0], [0, 1]⟩ := by cbv
  have h₁ : ofRoots knot ["net", "app"] = .ok ⟨#v[2, 3, 3, 1, 0], [1, 0]⟩ := by cbv
  have h₂ : ofRoots knot ["net", "app", "net"] = .ok ⟨#v[2, 4, 3, 1, 0], [1, 0]⟩ := by cbv
  have hset : ∀ n, n ∈ ["app", "net"] ↔ n ∈ ["net", "app", "net"] := by
    intro n
    simp only [List.mem_cons, List.not_mem_nil, or_false]
    tauto
  obtain ⟨hrole, hservices, -, hplan⟩ := (root_order_is_irrelevant knot _ _ _ _ h h₂).2.2 hset
  exact ⟨_, _, _, h, h₁, h₂,
    (root_order_is_irrelevant knot _ _ _ _ h h₁).2.1 (List.Perm.swap _ _ _), by decide, by decide,
    hservices, hrole, hplan .transitive⟩

/-- **More roots split services and never merge them.** What was needed is needed still, what was a
service is one still, and the walk from it is a part of what it was, in the same order; so are the
regions that the plan gives to it. The counters of the two runs hold these tallies. -/
theorem more_roots_split_services (g : ModuleGraph) (names names' : List String) (t t' : Tally g)
    (h : ofRoots g names = .ok t) (h' : ofRoots g names' = .ok t')
    (hsub : ∀ n ∈ names, n ∈ names') :
    (t.KeptInWords names ∧ t'.KeptInWords names') ∧
    (∀ m, t.count m ≠ 0 → t'.count m ≠ 0) ∧
    t.standalone.Sublist t'.standalone ∧
    (∀ a ∈ t.standalone, ∃ ms ms', t.folded a = .ok ms ∧ t'.folded a = .ok ms' ∧
      (a :: ms').Sublist (a :: ms)) ∧
    ∀ policy, ∃ plan plan', t.plan policy = .ok plan ∧ t'.plan policy = .ok plan' ∧
      ∀ a ∈ t.standalone, ∃ c c', plan.component? (g.name a) = some c ∧
        plan'.component? (g.name a) = some c' ∧
        c'.resources.memory.Sublist c.resources.memory ∧
        c'.resources.dma.Sublist c.resources.dma := by
  have hservice : t.standalone ⊆ t'.standalone := standalone_ofRoots_subset h h' hsub
  have hcircles : ∀ a ∈ t.standalone, ¬ t.Circles a := fun a ha =>
    not_circles_ofRoots h (needed_of_mem_standalone h ha)
  refine ⟨⟨keptInWords_ofRoots h, keptInWords_ofRoots h'⟩, fun m hm => ?_,
    standalone_sublist hservice, fun a ha => ?_, fun policy => ?_⟩
  · rw [count_ofRoots_ne_zero_iff h] at hm
    rw [count_ofRoots_ne_zero_iff h']
    exact hm.mono hsub
  · have hc := hcircles a ha
    have hc' := not_circles_of_subset hservice hc
    refine ⟨_, _, folded_eq hc, folded_eq hc', ?_⟩
    rw [← group_eq_cons hc, ← group_eq_cons hc']
    exact group_sublist hservice hc
  · refine ⟨_, _, plan_ofRoots h policy, plan_ofRoots h' policy, fun a ha => ?_⟩
    have hc := hcircles a ha
    exact ⟨_, _, component?_map_composed ha policy, component?_map_composed (hservice ha) policy,
      regions_owned_sublist hservice hc Resources.memory_join,
      regions_owned_sublist hservice hc Resources.dma_join⟩

/-- the driver leaves the network stack when it is asked for itself -/
theorem nic_of_knot_split_off :
    ∃ t t', ofRoots knot ["test"] = .ok t ∧ ofRoots knot ["test", "nic"] = .ok t' ∧
      (∀ n ∈ ["test"], n ∈ ["test", "nic"]) ∧
      t.folded 1 = .ok [3] ∧ t'.folded 1 = .ok [] ∧
      t.standalone.Sublist t'.standalone ∧
      ∃ plan plan' c c', t.plan .local = .ok plan ∧ t'.plan .local = .ok plan' ∧
        plan.component? "net" = some c ∧ plan'.component? "net" = some c' ∧
        c'.resources.dma.Sublist c.resources.dma := by
  have h : ofRoots knot ["test"] = .ok ⟨#v[1, 2, 3, 1, 2], [4]⟩ := by cbv
  have h' : ofRoots knot ["test", "nic"] = .ok ⟨#v[1, 2, 3, 2, 2], [4, 3]⟩ := by cbv
  have hsub : ∀ n ∈ ["test"], n ∈ ["test", "nic"] := by decide
  obtain ⟨-, -, hservices, -, hplan⟩ := more_roots_split_services knot _ _ _ _ h h' hsub
  obtain ⟨plan, plan', hp, hp', hparts⟩ := hplan .local
  obtain ⟨c, c', hc, hc', -, hdma⟩ := hparts 1 (by decide)
  exact ⟨_, _, h, h', hsub, by cbv, by cbv, hservices, plan, plan', c, c', hp, hp', hc, hc', hdma⟩

end Tally

end ServiceBoundary
