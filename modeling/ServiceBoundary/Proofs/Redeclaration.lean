import ServiceBoundary.Proofs.Counterparts

/-!
# Declaring modules otherwise

What a change of the declarations does to a selection that stays as it is.

* `declarations_of_needed`   the needed modules of a graph, written down, are the needed ones of the
  declarations, in their order;
* `unneeded_modules_do_not_matter`   as long as the needed declarations stay, in their order, all
  others may come, go and change: the plan is the same;
* `declaration_order_only_orders`   another order of the declarations is another order of the
  components, and another order of dependencies another order of what a component owns.
-/

namespace ServiceBoundary
open Relation

namespace ModuleGraph
variable {g g' : ModuleGraph} {ds ds' es : List Declaration} {names : List String}

/-! ## graphs of two lists -/

theorem map_name_ids_of_link (hg : link ds = .ok g) :
    g.ids.map g.name = ds.map Declaration.name := by
  have h := congrArg (List.map Declaration.name) (declarations_of_link hg)
  rw [List.map_map, List.map_map] at h
  exact h

theorem exists_name_eq_iff (hg : link ds = .ok g) {n : String} :
    (∃ m, g.name m = n) ↔ n ∈ ds.map Declaration.name := by
  rw [← map_name_ids_of_link hg, List.mem_map]
  simp

theorem exists_rel_declaration {R : Declaration → Declaration → Prop}
    (hR : ∀ d d', R d d' → R d.withoutRepeats d'.withoutRepeats) (hg : link ds = .ok g)
    (hg' : link ds' = .ok g') (h : ∀ d ∈ ds, ∃ d' ∈ ds', R d d') (m : Fin g.size) :
    ∃ m', R (g.declaration m) (g'.declaration m') := by
  have hm : g.declaration m ∈ ds.map Declaration.withoutRepeats := by
    rw [← declarations_of_link hg]
    exact List.mem_map_of_mem (g.mem_ids m)
  obtain ⟨d, hd, hdm⟩ := List.mem_map.1 hm
  obtain ⟨d', hd', hdd⟩ := h d hd
  have hmem : d'.withoutRepeats ∈ g'.ids.map g'.declaration := by
    rw [declarations_of_link hg']
    exact List.mem_map_of_mem hd'
  obtain ⟨m', -, hm'⟩ := List.mem_map.1 hmem
  refine ⟨m', ?_⟩
  rw [← hdm, hm']
  exact hR d d' hdd

theorem map_find?_congr {α : Type} {f : Fin g.size → α} {f' : Fin g'.size → α}
    (hf : ∀ m m', g.name m = g'.name m' → f m = f' m')
    (hnames : ∀ n, (∃ m, g.name m = n) ↔ ∃ m', g'.name m' = n) (n : String) :
    (g.find? n).map f = (g'.find? n).map f' := by
  by_cases hn : ∃ m, g.name m = n
  · obtain ⟨m', hm'⟩ := (hnames n).1 hn
    obtain ⟨m, hm⟩ := hn
    rw [g.find?_eq_some_iff.2 hm, g'.find?_eq_some_iff.2 hm']
    exact congrArg some (hf m m' (hm.trans hm'.symm))
  · have hn' : ¬ ∃ m', g'.name m' = n := fun h => hn ((hnames n).2 h)
    rw [g.find?_eq_none_iff.2 (not_exists.1 hn), g'.find?_eq_none_iff.2 (not_exists.1 hn')]
    rfl

/-! ## rearranged lists -/

section
variable (hperm : ds.Perm es) (hre : List.Forall₂ Declaration.Rearranged es ds')
include hperm hre

theorem exists_rearranged_of_mem_left : ∀ d ∈ ds, ∃ d' ∈ ds', d.Rearranged d' := fun _ hd =>
  exists_rel_of_mem_left hre (hperm.mem_iff.1 hd)

theorem exists_rearranged_of_mem_right : ∀ d' ∈ ds', ∃ d ∈ ds, d'.Rearranged d := by
  intro d' hd'
  have hsymm : List.Forall₂ (flip Declaration.Rearranged) es ds' := hre.imp fun _ _ h => h.symm
  obtain ⟨d, hd, hdd⟩ := exists_rel_of_mem_left hsymm.flip hd'
  exact ⟨d, hperm.mem_iff.2 hd, hdd⟩

theorem perm_map_name : (ds.map Declaration.name).Perm (ds'.map Declaration.name) := by
  have hes : es.map Declaration.name = ds'.map Declaration.name :=
    map_eq_map_iff_forall₂.2 (hre.imp fun _ _ h => h.name_eq)
  rw [← hes]
  exact hperm.map _

theorem exists_link_of_rearranged (hg : link ds = .ok g) : ∃ g', link ds' = .ok g' := by
  obtain ⟨hn, hdeps⟩ := exists_link_iff.1 ⟨g, hg⟩
  have hnames := perm_map_name hperm hre
  refine exists_link_iff.2 ⟨hnames.nodup_iff.1 hn, fun d' hd' n hn => ?_⟩
  obtain ⟨d, hd, hdd⟩ := exists_rearranged_of_mem_right hperm hre d' hd'
  exact hnames.mem_iff.1 (hdeps d hd n ((hdd.mem_dependencies_iff n).1 hn))

end

/-! ## the needed part of a list -/

theorem declarations_of_needed (hg : link ds = .ok g) (names : List String) :
    (g.ids.filter fun m => g.Needed names m).map g.declaration =
      (ds.filter fun d => d.name ∈ (g.needed names).image g.name).map
        Declaration.withoutRepeats := by
  have hmem : ∀ m, (g.declaration m).name ∈ (g.needed names).image g.name ↔ g.Needed names m := by
    intro m
    change g.name m ∈ (g.needed names).image g.name ↔ g.Needed names m
    rw [g.name_injective.mem_finset_image, mem_needed]
  have h := congrArg (List.filter fun d => d.name ∈ (g.needed names).image g.name)
    (declarations_of_link hg)
  rw [List.filter_map, List.filter_map] at h
  rw [← List.filter_congr (fun m _ => decide_eq_decide.2 (hmem m))]
  exact h

/-! ## an example -/

/-- the declarations of the knot; the application lists a dependency again -/
def knotDeclarations : List Declaration := [
  { name := "app", source := "app.elf", resources := { memory := [⟨16, 16, 1⟩] },
    dependencies := ["net", "log", "net"] },
  { name := "net", source := "net.elf", flags := ["-lnet"], dependencies := ["log", "nic"] },
  { name := "log", source := "log.elf", resources := { memory := [⟨32, 32, 1⟩] },
    dependencies := ["log"] },
  { name := "nic", source := "nic.elf",
    resources := { memory := [⟨16, 16, 1⟩], dma := [⟨64, 1⟩] }, dependencies := ["net"] },
  { name := "test", source := "test.elf", resources := { memory := [⟨48, 48, 1⟩] },
    dependencies := ["app"] }]

/-- in place of the test, another module that comes first and uses itself and most others -/
def probedDeclarations : List Declaration :=
  { name := "probe", source := "probe.elf", dependencies := ["nic", "log", "probe", "app"] } ::
    knotDeclarations.take 4

theorem link_knotDeclarations : link knotDeclarations = .ok knot := by rfl

end ModuleGraph

namespace Tally
open ModuleGraph (Agree knot link)

/-! ## two lists of declarations -/

/-- **Unneeded modules do not matter.** The second list holds the declarations that the selection
leads to in the first one, in the same order. Whatever else it holds in place of the other
declarations, the selection has the same outcome, under each policy. -/
theorem unneeded_modules_do_not_matter (ds ds' : List Declaration) (g g' : ModuleGraph)
    (names : List String) (hg : link ds = .ok g) (hg' : link ds' = .ok g')
    (hnames : ∀ n ∈ names, n ∈ ds.map Declaration.name)
    (hneeded : (ds.filter fun d => d.name ∈ (g.needed names).image g.name).Sublist ds')
    (policy : FlagPolicy) :
    (ofRoots g names >>= fun t => t.plan policy) =
        (ofRoots g' names >>= fun t => t.plan policy) ∧
      (names ≠ [] → ∃ plan, (ofRoots g names >>= fun t => t.plan policy) = .ok plan) := by
  have hdeclared : ∀ n ∈ names, ∃ m, g.name m = n := fun n hn =>
    (ModuleGraph.exists_name_eq_iff hg).2 (hnames n hn)
  have hsub : ((g.ids.filter fun m => g.Needed names m).map g.declaration).Sublist
      (g'.ids.map g'.declaration) := by
    rw [ModuleGraph.declarations_of_needed hg, ModuleGraph.declarations_of_link hg']
    exact hneeded.map _
  have htwin : ∀ m, g.Needed names m → ∃ m', g.declaration m = g'.declaration m' := fun m hm =>
    ModuleGraph.exists_declaration_eq_of_sublist hsub hm
  have hsame : ∀ m m', g.Needed names m → g.name m = g'.name m' →
      g.declaration m = g'.declaration m' := fun m m' hm hname =>
    ModuleGraph.declaration_eq_of_name_eq (htwin m hm) hname
  have h : Agree g g' names := Agree.of_exists_declaration_eq hdeclared htwin
  by_cases hne : names = []
  · subst hne
    exact ⟨rfl, fun hne => absurd rfl hne⟩
  · obtain ⟨t, ht⟩ := exists_ofRoots hne hdeclared
    obtain ⟨t', ht'⟩ := exists_ofRoots hne (h.forall_declared hdeclared)
    have hparts := h.map_composed_eq ht ht' hsame hsub policy
    have hplan : (ofRoots g names >>= fun t => t.plan policy) =
        .ok { components := t.standalone.map (t.composed policy) } :=
      bind_eq_ok_iff.2 ⟨t, ht, plan_ofRoots ht policy⟩
    have hplan' : (ofRoots g' names >>= fun t => t.plan policy) =
        .ok { components := t.standalone.map (t.composed policy) } :=
      bind_eq_ok_iff.2 ⟨t', ht', by rw [plan_ofRoots ht', hparts]⟩
    exact ⟨hplan.trans hplan'.symm, fun _ => ⟨_, hplan⟩⟩

theorem probe_of_knot_does_not_matter :
    ∃ g', link ModuleGraph.probedDeclarations = .ok g' ∧ g'.size = 5 ∧
      (∀ n ∈ ["app"], n ∈ ModuleGraph.knotDeclarations.map Declaration.name) ∧
      (ofRoots g' ["app"] >>= fun t => t.plan .transitive) = .ok ⟨[
        ⟨"app", "app.elf", ⟨[⟨16, 16, 1⟩], []⟩, []⟩,
        ⟨"net", "net.elf", ⟨[⟨16, 16, 1⟩], [⟨64, 1⟩]⟩, ["-lnet"]⟩,
        ⟨"log", "log.elf", ⟨[⟨32, 32, 1⟩], []⟩, []⟩]⟩ := by
  obtain ⟨g', hg'⟩ : ∃ g', link ModuleGraph.probedDeclarations = .ok g' := ⟨_, rfl⟩
  have hsize : g'.size = 5 := by
    obtain rfl := Except.ok.inj hg'
    rfl
  have hnames : ∀ n ∈ ["app"], n ∈ ModuleGraph.knotDeclarations.map Declaration.name := by decide
  have happ : ofRoots knot ["app"] = .ok ⟨#v[2, 2, 3, 1, 0], [0]⟩ := by cbv
  have hset : knot.needed ["app"] = {0, 1, 2, 3} := by
    ext m
    rw [ModuleGraph.mem_needed, ← count_ofRoots_ne_zero_iff happ]
    revert m
    decide
  have hneeded : (ModuleGraph.knotDeclarations.filter fun d =>
      d.name ∈ (knot.needed ["app"]).image knot.name).Sublist ModuleGraph.probedDeclarations := by
    rw [hset]
    decide
  have hplan := (unneeded_modules_do_not_matter _ _ knot g' ["app"]
    ModuleGraph.link_knotDeclarations hg' hnames hneeded .transitive).1
  refine ⟨g', hg', hsize, hnames, hplan.symm.trans ?_⟩
  cbv

/-- **Declaration order only orders the output.** The second list of declarations is the first one
in another order, with the dependencies of each declaration in another order and listed any number
of times. Then it has a graph as well, and a selection has the same counts and roles in it, name by
name; the plan has a component for the same names, and each of them owns the same regions in some
order. If only the declarations were moved, and no dependencies, then each service folds the same
modules in the same order, and the components are the same ones in some order. -/
theorem declaration_order_only_orders (ds es ds' : List Declaration) (g : ModuleGraph)
    (names : List String) (hg : link ds = .ok g) (hperm : ds.Perm es)
    (hre : List.Forall₂ Declaration.Rearranged es ds')
    (hnames : ∀ n ∈ names, n ∈ ds.map Declaration.name) :
    ∃ g', link ds' = .ok g' ∧
      (names = [] → ofRoots g names = .error .emptySelection ∧
        ofRoots g' names = .error .emptySelection) ∧
      (names ≠ [] → ∃ t t', ofRoots g names = .ok t ∧ ofRoots g' names = .ok t' ∧
        (∀ n, (g.find? n).map t.count = (g'.find? n).map t'.count) ∧
        (∀ n, (g.find? n).map t.role = (g'.find? n).map t'.role) ∧
        (ds.Perm ds' → ∀ a ∈ t.standalone, ∃ a' ∈ t'.standalone, g.name a = g'.name a' ∧
          ∃ ms ms', t.folded a = .ok ms ∧ t'.folded a' = .ok ms' ∧
            ms.map g.name = ms'.map g'.name) ∧
        ∀ policy, ∃ plan plan', t.plan policy = .ok plan ∧ t'.plan policy = .ok plan' ∧
          (ds.Perm ds' → plan'.components.Perm plan.components) ∧
          (plan'.components.map Component.name).Perm (plan.components.map Component.name) ∧
          ∀ c ∈ plan.components, ∀ c' ∈ plan'.components, c.name = c'.name →
            c'.resources.memory.Perm c.resources.memory ∧
            c'.resources.dma.Perm c.resources.dma) := by
  obtain ⟨g', hg'⟩ := ModuleGraph.exists_link_of_rearranged hperm hre hg
  have hdeclared : ∀ n ∈ names, ∃ m, g.name m = n := fun n hn =>
    (ModuleGraph.exists_name_eq_iff hg).2 (hnames n hn)
  have hsame : ∀ n, (∃ m, g.name m = n) ↔ ∃ m', g'.name m' = n := by
    intro n
    rw [ModuleGraph.exists_name_eq_iff hg, ModuleGraph.exists_name_eq_iff hg']
    exact (ModuleGraph.perm_map_name hperm hre).mem_iff
  have h : Agree g g' names := Agree.of_exists_counterpart hdeclared fun m _ =>
    ModuleGraph.exists_rel_declaration (fun _ _ hd => hd.withoutRepeats) hg hg'
      (ModuleGraph.exists_rearranged_of_mem_left hperm hre) m
  refine ⟨g', hg', ?_, fun hne => ?_⟩
  · rintro rfl
    exact ⟨rfl, rfl⟩
  obtain ⟨t, ht⟩ := exists_ofRoots hne hdeclared
  obtain ⟨t', ht'⟩ := exists_ofRoots hne (h.forall_declared hdeclared)
  have hcount : ∀ m m', g.name m = g'.name m' → t.count m = t'.count m' := fun m m' hname =>
    h.count_eq ht ht' hname
  -- with no dependencies moved, a module and the one of its name are twins
  have hverbatim : ds.Perm ds' → ∀ m m', g.Needed names m → g.name m = g'.name m' →
      g.declaration m = g'.declaration m' := fun hp m m' _ hname =>
    ModuleGraph.declaration_eq_of_name_eq
      (ModuleGraph.exists_rel_declaration (R := Eq) (fun _ _ => congrArg _) hg hg'
        (fun d hd => ⟨d, hp.mem_iff.1 hd, rfl⟩) m) hname
  refine ⟨t, t', ht, ht', fun n => ModuleGraph.map_find?_congr hcount hsame n,
    fun n => ModuleGraph.map_find?_congr (fun m m' hname => ?_) hsame n,
    fun hp a ha => ?_, fun policy => ?_⟩
  · exact role_eq_of_count_eq (hcount m m' hname)
  · obtain ⟨a', ha', hname⟩ := h.exists_standalone_right ht ht' ha
    have hneeded := needed_of_mem_standalone ht ha
    have hnames := h.map_name_group ht ht' (hverbatim hp)
      ⟨hneeded, hverbatim hp a a' hneeded hname⟩
    refine ⟨a', ha', hname, _, _, folded_eq (not_circles_ofRoots ht hneeded),
      folded_eq (not_circles_ofRoots ht' (needed_of_mem_standalone ht' ha')), ?_⟩
    rw [List.map_tail, List.map_tail, hnames]
  · refine ⟨_, _, plan_ofRoots ht policy, plan_ofRoots ht' policy, fun hp => ?_, ?_, ?_⟩
    · exact (h.perm_map_composed ht ht' (hverbatim hp) policy).symm
    · rw [List.map_map, List.map_map]
      exact (h.perm_map_standalone ht ht' g.name_injective g'.name_injective
        fun _ _ _ hname => hname).symm
    · intro c hc c' hc' hname
      obtain ⟨a, ha, rfl⟩ := List.mem_map.1 hc
      obtain ⟨a', -, rfl⟩ := List.mem_map.1 hc'
      exact ⟨(h.perm_regions_owned ht ht' Resources.memory_join ha hname).symm,
        (h.perm_regions_owned ht ht' Resources.dma_join ha hname).symm⟩

theorem reversed_knot :
    ∃ g₁ g₂ t t₁ t₂ plan plan₁ plan₂,
      link ModuleGraph.knotDeclarations.reverse = .ok g₁ ∧
      link (ModuleGraph.knotDeclarations.reverse.map fun d =>
        { d with dependencies := d.dependencies.reverse ++ d.dependencies }) = .ok g₂ ∧
      ofRoots knot ["app", "app"] = .ok t ∧ ofRoots g₁ ["app", "app"] = .ok t₁ ∧
      ofRoots g₂ ["app", "app"] = .ok t₂ ∧
      (g₁.find? "log").map t₁.count = some 3 ∧ (g₂.find? "nic").map t₂.role = some .folded ∧
      t.plan .local = .ok plan ∧ t₁.plan .local = .ok plan₁ ∧ t₂.plan .local = .ok plan₂ ∧
      plan₁.components.Perm plan.components ∧
      (plan₂.components.map Component.name).Perm (plan.components.map Component.name) := by
  have hperm : ModuleGraph.knotDeclarations.Perm ModuleGraph.knotDeclarations.reverse :=
    (List.reverse_perm _).symm
  have hnames : ∀ n ∈ ["app", "app"], n ∈ ModuleGraph.knotDeclarations.map Declaration.name := by
    decide
  have hsame : List.Forall₂ Declaration.Rearranged ModuleGraph.knotDeclarations.reverse
      ModuleGraph.knotDeclarations.reverse :=
    List.forall₂_same.2 fun d _ => Declaration.Rearranged.refl d
  have hlonger : List.Forall₂ Declaration.Rearranged ModuleGraph.knotDeclarations.reverse
      (ModuleGraph.knotDeclarations.reverse.map fun d =>
        { d with dependencies := d.dependencies.reverse ++ d.dependencies }) :=
    List.forall₂_map_right_iff.2
      (List.forall₂_same.2 fun d _ => ⟨rfl, rfl, rfl, rfl, fun n => by simp⟩)
  obtain ⟨g₁, hg₁, -, h₁⟩ := declaration_order_only_orders _ _ _ knot ["app", "app"]
    ModuleGraph.link_knotDeclarations hperm hsame hnames
  obtain ⟨g₂, hg₂, -, h₂⟩ := declaration_order_only_orders _ _ _ knot ["app", "app"]
    ModuleGraph.link_knotDeclarations hperm hlonger hnames
  obtain ⟨t, t₁, ht, ht₁, hcount, -, -, hplan₁⟩ := h₁ (by decide)
  obtain ⟨s, t₂, hs, ht₂, -, hrole, -, hplan₂⟩ := h₂ (by decide)
  obtain rfl : ⟨#v[2, 2, 3, 1, 0], [0]⟩ = t := Except.ok.inj (ofRoots_knot.symm.trans ht)
  obtain rfl : ⟨#v[2, 2, 3, 1, 0], [0]⟩ = s := Except.ok.inj (ofRoots_knot.symm.trans hs)
  obtain ⟨plan, plan₁, hp, hp₁, hcomponents, -⟩ := hplan₁ .local
  obtain ⟨plan', plan₂, hp', hp₂, -, hnames₂, -⟩ := hplan₂ .local
  obtain rfl : plan = plan' := Except.ok.inj (hp.symm.trans hp')
  exact ⟨g₁, g₂, _, t₁, t₂, plan, plan₁, plan₂, hg₁, hg₂, ht, ht₁, ht₂,
    (hcount "log").symm.trans (by decide), (hrole "nic").symm.trans (by decide), hp, hp₁, hp₂,
    hcomponents hperm, hnames₂⟩

end Tally

end ServiceBoundary
