import ServiceBoundary.Proofs.FixedPoint
import ServiceBoundary.Proofs.LinkOutcome

/-!
# What a selection and a plan answer

A selection of no names is an error. Else the names are looked up in order, and the first one that
nobody declares is an error. Else there is a tally, and with it a plan: at least the roots are
services, and no walk runs in a circle. As no two modules share a name, no two components do, and a
component is found under its name.

Other tallies may have no services, and then the plan is the error that an empty selection is. If
there are services, nothing else can fail; but the walk from one of them may have no end, and then
there is no answer at all, which `PlanningError.endlessFolding` stands for.

* `ofRoots_cases`                      the three answers of a selection;
* `plan_cases`                         the answers of a plan, in any state;
* `Describes`                          what makes a component that of a module;
* `component?_map_composed_iff`        which component is found under a name;
* `outcomes_of_selections_and_plans`   all of this, and when each answer is given.
-/

namespace ServiceBoundary

namespace ModuleGraph
variable {g : ModuleGraph} {before after : List String} {n : String}

theorem findRoots_eq_error (hbefore : ∀ b ∈ before, ∃ m, g.name m = b) (hn : ∀ m, g.name m ≠ n) :
    g.findRoots (before ++ n :: after) = .error (.unknownRoot n) := by
  refine mapM_eq_error (fun b hb => ?_) ?_
  · obtain ⟨m, rfl⟩ := hbefore b hb
    rw [g.find?_name]
    exact ⟨m, rfl⟩
  · rw [g.find?_eq_none_iff.2 hn]

end ModuleGraph

namespace Tally
open ModuleGraph (knot)
variable {g : ModuleGraph} {t : Tally g} {m : Fin g.size} {services : List (Fin g.size)}
  {names before after : List String} {n : String} {policy : FlagPolicy} {c : Component}

/-! ## selections -/

theorem ofRoots_eq_error (hbefore : ∀ b ∈ before, ∃ m, g.name m = b) (hn : ∀ m, g.name m ≠ n) :
    ofRoots g (before ++ n :: after) = .error (.unknownRoot n) := by
  have hne : ¬ (before ++ n :: after).isEmpty = true := by simp
  rw [ofRoots, if_neg hne, ModuleGraph.findRoots_eq_error hbefore hn]
  rfl

/-- **The three answers of a selection.** -/
theorem ofRoots_cases (g : ModuleGraph) (names : List String) :
    (names = [] ∧ ofRoots g names = .error .emptySelection) ∨
    (∃ before n after, names = before ++ n :: after ∧ (∀ b ∈ before, ∃ m, g.name m = b) ∧
      (∀ m, g.name m ≠ n) ∧ ofRoots g names = .error (.unknownRoot n)) ∨
    (names ≠ [] ∧ (∀ n ∈ names, ∃ m, g.name m = n) ∧ ∃ t, ofRoots g names = .ok t) := by
  by_cases hne : names = []
  · subst hne
    exact Or.inl ⟨rfl, rfl⟩
  · by_cases hdeclared : ∀ n ∈ names, ∃ m, g.name m = n
    · exact Or.inr (Or.inr ⟨hne, hdeclared, exists_ofRoots hne hdeclared⟩)
    · obtain ⟨before, n, after, rfl, hbefore, hn⟩ := exists_first_not hdeclared
      have hn' := not_exists.1 hn
      exact Or.inr (Or.inl ⟨before, n, after, rfl, hbefore, hn', ofRoots_eq_error hbefore hn'⟩)

theorem ofRoots_eq_emptySelection_iff :
    ofRoots g names = .error .emptySelection ↔ names = [] := by
  constructor
  · intro h
    obtain ⟨hnil, -⟩ | ⟨_, n, _, -, -, -, hunknown⟩ | ⟨-, -, t, ht⟩ := ofRoots_cases g names
    · exact hnil
    · cases h.symm.trans hunknown
    · cases h.symm.trans ht
  · rintro rfl
    rfl

theorem ofRoots_eq_unknownRoot_iff :
    ofRoots g names = .error (.unknownRoot n) ↔
      ∃ before after, names = before ++ n :: after ∧ (∀ b ∈ before, ∃ m, g.name m = b) ∧
        ∀ m, g.name m ≠ n := by
  constructor
  · intro h
    obtain ⟨-, hempty⟩ | ⟨before, n', after, hnames, hbefore, hn', hunknown⟩ | ⟨-, -, t, ht⟩ :=
      ofRoots_cases g names
    · cases h.symm.trans hempty
    · cases h.symm.trans hunknown
      exact ⟨before, after, hnames, hbefore, hn'⟩
    · cases h.symm.trans ht
  · rintro ⟨before, after, rfl, hbefore, hn⟩
    exact ofRoots_eq_error hbefore hn

theorem exists_ofRoots_eq_unknownRoot_iff :
    (∃ n, ofRoots g names = .error (.unknownRoot n)) ↔
      names ≠ [] ∧ ∃ n ∈ names, ∀ m, g.name m ≠ n := by
  constructor
  · rintro ⟨n, hn⟩
    obtain ⟨before, after, rfl, -, hundeclared⟩ := ofRoots_eq_unknownRoot_iff.1 hn
    exact ⟨by simp, n, by simp, hundeclared⟩
  · rintro ⟨hne, n, hn, hundeclared⟩
    obtain ⟨hnil, -⟩ | ⟨_, n', _, -, -, -, hunknown⟩ | ⟨-, hdeclared, -⟩ := ofRoots_cases g names
    · exact absurd hnil hne
    · exact ⟨n', hunknown⟩
    · obtain ⟨m, hm⟩ := hdeclared n hn
      exact absurd hm (hundeclared m)

theorem exists_ofRoots_iff :
    (∃ t, ofRoots g names = .ok t) ↔ names ≠ [] ∧ ∀ n ∈ names, ∃ m, g.name m = n := by
  constructor
  · rintro ⟨t, ht⟩
    obtain ⟨-, hempty⟩ | ⟨_, n, _, -, -, -, hunknown⟩ | ⟨hne, hdeclared, -⟩ := ofRoots_cases g names
    · cases ht.symm.trans hempty
    · cases ht.symm.trans hunknown
    · exact ⟨hne, hdeclared⟩
  · rintro ⟨hne, hdeclared⟩
    exact exists_ofRoots hne hdeclared

/-! ## plans in any state -/

theorem standalone_eq_nil_iff : t.standalone = [] ↔ ∀ m, t.count m ≤ 1 := by
  rw [List.eq_nil_iff_forall_not_mem]
  simp only [mem_standalone, Nat.not_lt]

theorem component_eq_error (h : t.Circles m) (policy : FlagPolicy) :
    t.component policy m = .error (.endlessFolding (g.name m)) := by
  have hnone : t.members? m = none := by
    rw [Option.eq_none_iff_forall_ne_some]
    intro order horder
    exact not_circles_of_walkEnds (members?_eq_some_iff.1 horder) h
  rw [component, resources, members, hnone]
  rfl

/-- **The answers of a plan, in any state.** -/
theorem plan_cases (t : Tally g) (policy : FlagPolicy) :
    (t.standalone = [] ∧ t.plan policy = .error .emptySelection) ∨
    (∃ m ∈ t.standalone, t.Circles m ∧ t.plan policy = .error (.endlessFolding (g.name m))) ∨
    (t.standalone ≠ [] ∧ (∀ m ∈ t.standalone, ¬ t.Circles m) ∧
      ∃ plan, t.plan policy = .ok plan) := by
  by_cases hne : t.standalone = []
  · exact Or.inl ⟨hne, plan_eq_error hne policy⟩
  · by_cases hends : ∀ m ∈ t.standalone, ¬ t.Circles m
    · refine Or.inr (Or.inr ⟨hne, hends, _, plan_eq_ok (fun m hm => ?_) hne policy⟩)
      exact hends m (mem_standalone.2 hm)
    · -- the components are made in order, and the first walk without an end stops this
      obtain ⟨before, m, after, hsplit, hbefore, hm⟩ := exists_first_not hends
      have hcircles : t.Circles m := not_not.1 hm
      have hmem : m ∈ t.standalone := hsplit ▸ List.mem_append_right _ List.mem_cons_self
      have hparts : t.standalone.mapM (t.component policy) =
          .error (.endlessFolding (g.name m)) := by
        rw [hsplit]
        exact mapM_eq_error (fun b hb => ⟨_, component_eq (hbefore b hb) policy⟩)
          (component_eq_error hcircles policy)
      have hempty : ¬ t.standalone.isEmpty = true := by rwa [List.isEmpty_iff]
      refine Or.inr (Or.inl ⟨m, hmem, hcircles, ?_⟩)
      rw [plan, if_neg hempty, hparts]
      rfl

theorem plan_eq_emptySelection_iff :
    t.plan policy = .error .emptySelection ↔ ∀ m, t.count m ≤ 1 := by
  rw [← standalone_eq_nil_iff]
  constructor
  · intro h
    obtain ⟨hnil, -⟩ | ⟨m, -, -, hendless⟩ | ⟨-, -, plan, hplan⟩ := plan_cases t policy
    · exact hnil
    · cases h.symm.trans hendless
    · cases h.symm.trans hplan
  · exact fun h => plan_eq_error h policy

theorem exists_plan_iff : (∃ plan, t.plan policy = .ok plan) ↔
    (∃ m, 1 < t.count m) ∧ ∀ m, 1 < t.count m → ∃ order, t.WalkEnds [m] order := by
  have hsome : (∃ m, 1 < t.count m) ↔ t.standalone ≠ [] := by
    rw [Ne, standalone_eq_nil_iff, not_forall]
    simp only [Nat.not_le]
  simp only [hsome, exists_walkEnds_iff]
  constructor
  · rintro ⟨plan, hplan⟩
    obtain ⟨-, hempty⟩ | ⟨m, -, -, hendless⟩ | ⟨hne, hends, -⟩ := plan_cases t policy
    · cases hplan.symm.trans hempty
    · cases hplan.symm.trans hendless
    · exact ⟨hne, fun m hm => hends m (mem_standalone.2 hm)⟩
  · rintro ⟨hne, hends⟩
    exact ⟨_, plan_eq_ok hends hne policy⟩

theorem eq_of_plan_eq_error {e : PlanningError} (h : t.plan policy = .error e) :
    e = .emptySelection ∨ ∃ m, 1 < t.count m ∧ (¬ ∃ order, t.WalkEnds [m] order) ∧
      e = .endlessFolding (g.name m) := by
  obtain ⟨-, hempty⟩ | ⟨m, hm, hcircles, hendless⟩ | ⟨-, -, plan, hplan⟩ := plan_cases t policy
  · exact Or.inl (Except.error.inj (h.symm.trans hempty))
  · refine Or.inr ⟨m, mem_standalone.1 hm, ?_, Except.error.inj (h.symm.trans hendless)⟩
    rw [exists_walkEnds_iff, not_not]
    exact hcircles
  · cases h.symm.trans hplan

/-! ## components and modules -/

/-- the component is that of the module: it has its name and its artefact, and the regions and the
flags that the tally gives to it -/
structure Describes (t : Tally g) (policy : FlagPolicy) (m : Fin g.size) (c : Component) :
    Prop where
  name_eq : c.name = g.name m
  source_eq : c.source = (g.get m).source
  resources_eq : t.resources m = .ok c.resources
  flags_eq : t.flags m policy = .ok c.flags

theorem describes_iff (h : ¬ t.Circles m) :
    t.Describes policy m c ↔ c = t.composed policy m := by
  constructor
  · rintro ⟨hname, hsource, hresources, hflags⟩
    obtain ⟨name, source, resources, flags⟩ := c
    obtain rfl := Except.ok.inj ((resources_eq h).symm.trans hresources)
    obtain rfl := Except.ok.inj ((flags_eq h policy).symm.trans hflags)
    obtain rfl : name = g.name m := hname
    obtain rfl : source = (g.get m).source := hsource
    rfl
  · rintro rfl
    exact ⟨rfl, rfl, resources_eq h, flags_eq h policy⟩

/-- a component is found under a name if and only if it is that of a service of this name -/
theorem component?_map_composed_iff :
    (ServicePlan.mk (services.map (t.composed policy))).component? n = some c ↔
      ∃ m ∈ services, g.name m = n ∧ c = t.composed policy m := by
  constructor
  · intro h
    rw [ServicePlan.component?] at h
    have hname := List.find?_some h
    obtain ⟨m, hm, rfl⟩ := List.mem_map.1 (List.mem_of_find?_eq_some h)
    exact ⟨m, hm, eq_of_beq hname, rfl⟩
  · rintro ⟨m, hm, rfl, rfl⟩
    exact component?_map_composed hm policy

theorem pairwise_standalone (t : Tally g) : t.standalone.Pairwise (· < ·) :=
  List.Pairwise.filter _ (List.pairwise_lt_finRange g.size)

theorem mem_standalone_iff_role : m ∈ t.standalone ↔ t.role m = .standalone :=
  mem_standalone.trans role_eq_standalone_iff.symm

/-! ## plans of selections -/

section
variable (ht : ofRoots g names = .ok t)
include ht

theorem describes_iff_of_ofRoots (hm : m ∈ t.standalone) :
    t.Describes policy m c ↔ c = t.composed policy m :=
  describes_iff (not_circles_ofRoots ht (needed_of_mem_standalone ht hm))

theorem forall₂_describes (policy : FlagPolicy) :
    List.Forall₂ (t.Describes policy) t.standalone (t.standalone.map (t.composed policy)) := by
  rw [List.forall₂_map_right_iff, List.forall₂_same]
  exact fun m hm => (describes_iff_of_ofRoots ht hm).2 rfl

theorem component?_iff_describes :
    (ServicePlan.mk (t.standalone.map (t.composed policy))).component? n = some c ↔
      ∃ m, g.name m = n ∧ t.role m = .standalone ∧ t.Describes policy m c := by
  rw [component?_map_composed_iff]
  constructor
  · rintro ⟨m, hm, hname, hc⟩
    exact ⟨m, hname, mem_standalone_iff_role.1 hm, (describes_iff_of_ofRoots ht hm).2 hc⟩
  · rintro ⟨m, hname, hrole, hc⟩
    have hm := mem_standalone_iff_role.2 hrole
    exact ⟨m, hm, hname, (describes_iff_of_ofRoots ht hm).1 hc⟩

theorem exists_component_of_mem (hn : n ∈ names) (policy : FlagPolicy) :
    ∃ c, (ServicePlan.mk (t.standalone.map (t.composed policy))).component? n = some c := by
  obtain ⟨m, rfl⟩ := (exists_ofRoots_iff.1 ⟨t, ht⟩).2 n hn
  have hm : m ∈ t.standalone := (mem_standalone_ofRoots ht).2 (Or.inl hn)
  exact ⟨_, component?_map_composed_iff.2 ⟨m, hm, rfl, rfl⟩⟩

end

/-! ## all answers -/

/-- **What a selection and a plan answer.** A selection of no names is an error; else the first name
that nobody declares is an error, and if there is none there is a tally. It has a plan, under both
policies. The components are those of the services, one for each, in declared order; no two share a
name; a component is found under a name if and only if it is that of the service of this name; and
each root has one. A tally of any state has no plan, and this is the error of an empty selection, if
and only if nothing counts more than one. Else it has a plan if the walk from each service ends, and
nothing but a walk without an end keeps it from having one. -/
theorem outcomes_of_selections_and_plans (g : ModuleGraph) :
    (∀ names,
      (ofRoots g names = .error .emptySelection ↔ names = []) ∧
      ((∃ n, ofRoots g names = .error (.unknownRoot n)) ↔
        names ≠ [] ∧ ∃ n ∈ names, ∀ m, g.name m ≠ n) ∧
      (∀ n, ofRoots g names = .error (.unknownRoot n) ↔
        ∃ before after, names = before ++ n :: after ∧ (∀ b ∈ before, ∃ m, g.name m = b) ∧
          ∀ m, g.name m ≠ n) ∧
      ((∃ t, ofRoots g names = .ok t) ↔ names ≠ [] ∧ ∀ n ∈ names, ∃ m, g.name m = n)) ∧
    (∀ names (t : Tally g), ofRoots g names = .ok t → ∀ policy, ∃ plan, t.plan policy = .ok plan ∧
      (plan.components.map Component.name).Nodup ∧
      List.Forall₂ (t.Describes policy) t.standalone plan.components ∧
      t.standalone.Pairwise (· < ·) ∧ (∀ m, m ∈ t.standalone ↔ t.role m = .standalone) ∧
      (∀ n c, plan.component? n = some c ↔
        ∃ m, g.name m = n ∧ t.role m = .standalone ∧ t.Describes policy m c) ∧
      ∀ n ∈ names, ∃ c, plan.component? n = some c) ∧
    ∀ (t : Tally g) (policy : FlagPolicy),
      (t.plan policy = .error .emptySelection ↔ ∀ m, t.count m ≤ 1) ∧
      ((∃ plan, t.plan policy = .ok plan) ↔
        (∃ m, 1 < t.count m) ∧ ∀ m, 1 < t.count m → ∃ order, t.WalkEnds [m] order) ∧
      ∀ e, t.plan policy = .error e → e = .emptySelection ∨
        ∃ m, 1 < t.count m ∧ (¬ ∃ order, t.WalkEnds [m] order) ∧
          e = .endlessFolding (g.name m) := by
  refine ⟨fun names => ?_, fun names t ht policy => ?_, fun t policy => ?_⟩
  · exact ⟨ofRoots_eq_emptySelection_iff, exists_ofRoots_eq_unknownRoot_iff,
      fun n => ofRoots_eq_unknownRoot_iff, exists_ofRoots_iff⟩
  · have hnames : ((t.standalone.map (t.composed policy)).map Component.name).Nodup := by
      rw [map_name_composed]
      exact (nodup_standalone t).map g.name_injective
    exact ⟨_, plan_ofRoots ht policy, hnames, forall₂_describes ht policy, pairwise_standalone t,
      fun m => mem_standalone_iff_role, fun n c => component?_iff_describes ht,
      fun n hn => exists_component_of_mem ht hn policy⟩
  · exact ⟨plan_eq_emptySelection_iff, exists_plan_iff, fun e => eq_of_plan_eq_error⟩

/-- The driver is folded, so it has no component, and the network stack has one. If the test is
promoted before anything is visited, it is a service whose walk runs in a circle. -/
theorem outcomes_of_knot :
    ofRoots knot [] = .error .emptySelection ∧
    ofRoots knot ["app", "ghost", "shade"] = .error (.unknownRoot "ghost") ∧
    (∃ t plan c, ofRoots knot ["app", "app"] = .ok t ∧ t.plan .local = .ok plan ∧
      (plan.components.map Component.name).Nodup ∧ plan.component? "net" = some c ∧
      c.name = "net" ∧ t.role 3 = .folded ∧ plan.component? "nic" = none) ∧
    (∅ : Tally knot).plan .local = .error .emptySelection ∧
    ((∅ : Tally knot).promote [4]).plan .local = .error (.endlessFolding "test") ∧
    ¬ ∃ order, ((∅ : Tally knot).promote [4]).WalkEnds [4] order := by
  obtain ⟨hselection, hplan, hstate⟩ := outcomes_of_selections_and_plans knot
  obtain ⟨hempty, -, -, -⟩ := hselection []
  obtain ⟨-, -, hunknown, -⟩ := hselection ["app", "ghost", "shade"]
  obtain ⟨plan, hp, hnodup, -, -, -, hfound, -⟩ := hplan _ _ ofRoots_knot .local
  have hpromoted : ((∅ : Tally knot).promote [4]).plan .local = .error (.endlessFolding "test") := by
    cbv
  refine ⟨hempty.2 rfl, (hunknown "ghost").2 ⟨["app"], ["shade"], rfl, by decide, by decide⟩,
    ?_, (hstate ∅ .local).1.2 (by decide), hpromoted, ?_⟩
  · obtain ⟨r, hr⟩ : ∃ r, (⟨#v[2, 2, 3, 1, 0], [0]⟩ : Tally knot).resources 1 = .ok r :=
      ⟨⟨[⟨16, 16, 1⟩], [⟨64, 1⟩]⟩, by cbv⟩
    have hc := (hfound "net" ⟨"net", "net.elf", r, ["-lnet"]⟩).2 ⟨1, rfl, rfl, rfl, rfl, hr, rfl⟩
    refine ⟨_, plan, _, ofRoots_knot, hp, hnodup, hc, rfl, rfl, ?_⟩
    rw [Option.eq_none_iff_forall_ne_some]
    intro c hc
    obtain ⟨m, hm, hrole, -⟩ := (hfound "nic" c).1 hc
    clear hc
    revert m
    decide
  · obtain ⟨-, -, hfails⟩ := hstate ((∅ : Tally knot).promote [4]) .local
    obtain ⟨m, -, hendless, hname⟩ := (hfails _ hpromoted).resolve_left (by decide)
    obtain rfl : 4 = m := knot.name_inj.1 (PlanningError.endlessFolding.inj hname)
    exact hendless

end Tally

end ServiceBoundary
