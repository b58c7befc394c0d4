import ServiceBoundary.Proofs.Counterparts

/-!
# Services as roots

A service that nobody named is one because two needed modules depend on it. If it is named as well,
its count goes up, but it needs nothing that was not needed before, so no module gets another user
and no other module becomes a service. The services of a selection are a fixed point: any of them
may be added to the roots, and all of them may take the place of the roots, and roles and plans stay
what they are.

* `needed_congr`     roots that were needed already change nothing about what is needed;
* `services_are_a_fixed_point`   services as further roots, or as the only ones.
-/

namespace ServiceBoundary
open Relation

namespace ModuleGraph
variable {g : ModuleGraph} {names names' : List String}

theorem needed_congr (hsub : names ⊆ names') (hneeded : ∀ r, g.name r ∈ names' → g.Needed names r)
    (m : Fin g.size) : g.Needed names' m ↔ g.Needed names m := by
  constructor
  · rintro ⟨r, hr, hrm⟩
    exact (hneeded r hr).trans hrm
  · exact Needed.mono hsub

end ModuleGraph

namespace Tally
open ModuleGraph (knot)
variable {g : ModuleGraph} {t : Tally g} {names names' : List String}

/-- services among the roots are services all the same, and make no others -/
theorem exists_ofRoots_of_services (h : ofRoots g names = .ok t) (hsub : names ⊆ names')
    (hservices : ∀ n ∈ names', n ∈ names ∨ ∃ a ∈ t.standalone, g.name a = n) :
    ∃ t', ofRoots g names' = .ok t' ∧ (∀ m, t'.role m = t.role m) ∧
      t'.standalone = t.standalone := by
  have hservice : ∀ r, g.name r ∈ names' → r ∈ t.standalone := by
    intro r hr
    rcases hservices _ hr with hroot | ⟨a, ha, har⟩
    · exact (mem_standalone_ofRoots h).2 (Or.inl hroot)
    · exact g.name_inj.1 har ▸ ha
  have hneeded : ∀ m, g.Needed names' m ↔ g.Needed names m :=
    ModuleGraph.needed_congr hsub fun r hr => needed_of_mem_standalone h (hservice r hr)
  have husers : ∀ m, g.users names' m = g.users names m := by
    intro m
    ext p
    rw [ModuleGraph.mem_users, ModuleGraph.mem_users, hneeded]
  obtain ⟨hne, ids, hids, -⟩ := ofRoots_eq_ok_iff.1 h
  have hne' : names' ≠ [] := fun hnil => hne (List.eq_nil_of_subset_nil (hnil ▸ hsub))
  have hdeclared : ∀ n ∈ names', ∃ m, g.name m = n := by
    intro n hn
    rcases hservices n hn with hroot | ⟨a, -, ha⟩
    · rw [← hids] at hroot
      obtain ⟨m, -, hm⟩ := List.mem_map.1 hroot
      exact ⟨m, hm⟩
    · exact ⟨a, ha⟩
  obtain ⟨t', ht'⟩ := exists_ofRoots hne' hdeclared
  have hmem : ∀ m, m ∈ t'.standalone ↔ m ∈ t.standalone := by
    intro m
    constructor
    · intro hm
      rcases (mem_standalone_ofRoots ht').1 hm with hroot | hcard
      · exact hservice m hroot
      · rw [husers] at hcard
        exact (mem_standalone_ofRoots h).2 (Or.inr hcard)
    · exact fun hm => standalone_ofRoots_subset h ht' hsub hm
  refine ⟨t', ht', fun m => role_congr ?_ ?_, standalone_congr hmem⟩
  · rw [count_ofRoots_ne_zero_iff ht', count_ofRoots_ne_zero_iff h, hneeded]
  · rw [← mem_standalone, ← mem_standalone, hmem]

theorem map_name_composed (t : Tally g) (policy : FlagPolicy) (services : List (Fin g.size)) :
    (services.map (t.composed policy)).map Component.name = services.map g.name := by
  rw [List.map_map]
  rfl

/-- **The services of a selection are a fixed point.** If services are added to the roots, in any
order and any number of times, there is a tally for the longer list as well, each module has the
role that it had, and the plan is the same under each policy. In particular the names in a plan, as
roots, lead to this plan again. The counters of all these runs hold the tallies. -/
theorem services_are_a_fixed_point (g : ModuleGraph) (names : List String) (t : Tally g)
    (h : ofRoots g names = .ok t) :
    t.KeptInWords names ∧
    (∀ names', (∀ n ∈ names, n ∈ names') →
      (∀ n ∈ names', n ∈ names ∨ ∃ a ∈ t.standalone, g.name a = n) →
      ∃ t', ofRoots g names' = .ok t' ∧ t'.KeptInWords names' ∧ (∀ m, t'.role m = t.role m) ∧
        ∀ policy, ∃ plan, t.plan policy = .ok plan ∧ t'.plan policy = .ok plan) ∧
    ∀ policy, ∃ plan t', t.plan policy = .ok plan ∧
      ofRoots g (plan.components.map Component.name) = .ok t' ∧
      t'.KeptInWords (plan.components.map Component.name) ∧ (∀ m, t'.role m = t.role m) ∧
      t'.plan policy = .ok plan := by
  refine ⟨keptInWords_ofRoots h, ?_, ?_⟩
  · intro names' hsub hservices
    obtain ⟨t', ht', hrole, heq⟩ := exists_ofRoots_of_services h hsub hservices
    refine ⟨t', ht', keptInWords_ofRoots ht', hrole, fun policy => ⟨_, plan_ofRoots h policy, ?_⟩⟩
    exact (plan_congr heq policy).trans (plan_ofRoots h policy)
  · intro policy
    -- every root is a service, so the services alone are a longer list of roots
    have hsub : names ⊆ t.standalone.map g.name := by
      obtain ⟨-, ids, hids, -⟩ := ofRoots_eq_ok_iff.1 h
      intro n hn
      rw [← hids] at hn
      obtain ⟨m, -, rfl⟩ := List.mem_map.1 hn
      rw [hids] at hn
      exact List.mem_map_of_mem ((mem_standalone_ofRoots h).2 (Or.inl hn))
    obtain ⟨t', ht', hrole, heq⟩ := exists_ofRoots_of_services h hsub fun n hn =>
      Or.inr (List.mem_map.1 hn)
    rw [← map_name_composed t policy] at ht'
    refine ⟨_, t', plan_ofRoots h policy, ht', keptInWords_ofRoots ht', hrole, ?_⟩
    exact (plan_congr heq policy).trans (plan_ofRoots h policy)

/-- the network stack and the log are services that nobody named; they may be named -/
theorem services_of_knot_as_roots :
    ∃ t t₁ t₂ plan, ofRoots knot ["app", "app"] = .ok t ∧ t.standalone = [0, 1, 2] ∧
      (∀ n ∈ ["app", "app"], n ∈ ["log", "app", "net", "log"]) ∧
      ofRoots knot ["log", "app", "net", "log"] = .ok t₁ ∧ t.count 2 = 3 ∧ t₁.count 2 = 5 ∧
      (∀ m, t₁.role m = t.role m) ∧ t.plan .local = .ok plan ∧ t₁.plan .local = .ok plan ∧
      ofRoots knot (plan.components.map Component.name) = .ok t₂ ∧ t₂.plan .local = .ok plan := by
  obtain ⟨-, hmore, honly⟩ := services_are_a_fixed_point knot ["app", "app"] _ ofRoots_knot
  obtain ⟨t₁, ht₁, -, hrole, hplan⟩ := hmore ["log", "app", "net", "log"] (by decide) (by decide)
  have h₁ : ofRoots knot ["log", "app", "net", "log"] = .ok ⟨#v[2, 3, 5, 1, 0], [2, 0, 1]⟩ := by
    cbv
  obtain rfl := Except.ok.inj (h₁.symm.trans ht₁)
  obtain ⟨plan, hp, hp₁⟩ := hplan .local
  obtain ⟨plan', t₂, hp', ht₂, -, -, hp₂⟩ := honly .local
  obtain rfl : plan = plan' := Except.ok.inj (hp.symm.trans hp')
  exact ⟨_, _, t₂, plan, ofRoots_knot, by decide, by decide, ht₁, rfl, rfl, hrole, hp, hp₁, ht₂,
    hp₂⟩

end Tally

end ServiceBoundary
