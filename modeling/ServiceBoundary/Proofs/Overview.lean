import ServiceBoundary.Proofs.Enumeration
import ServiceBoundary.Proofs.Frames
import ServiceBoundary.Proofs.History
import ServiceBoundary.Proofs.PlanOutcome

/-!
# Summaries and plans

A summary looks at the tally and at a plan: roles, counts and folded modules come from the tally,
the sizes of a service from its component. If the plan is that of the tally, both tell the same. The
services are the components, in their order, and the sizes are those of the modules that a line
names; as each folded module belongs to one service, it is named on one line. A plan of another
tally only decides which services have a line.

What a reader sees is a text, so this is said of texts. A report is its roots and two lists, and each
entry of a list is a text of its own:

* `moduleLine`                   name, role and count of a module;
* `serviceLines`                 name and sizes of a service, and the names that it folds, if any;
* `page`                         a report, with the two lists under their titles;
* `text_outlined`                a summary is written in these words;
* `perm_folded`                  the services fold each module that is counted once, and no other;
* `summaries_agree_with_plans`   the report on a selection, with its own plan and with another one.
-/

namespace ServiceBoundary

namespace Tally
open ModuleGraph (knot)
variable {g : ModuleGraph} {t : Tally g} {m : Fin g.size} {asked : List (Fin g.size)}
  {names : List String}

/-! ## roots -/

theorem roots_ofRoots (h : ofRoots g names = .ok t) : t.roots.map g.name = names.eraseDups := by
  obtain ⟨-, ids, rfl, rfl⟩ := ofRoots_eq_ok_iff.1 h
  have hvisited : ((∅ : Tally g).visitAll ids).roots = ([] : List (Fin g.size)).eraseDups :=
    roots_visitAll ∅ ids
  rw [roots_promote_eraseDups hvisited ids, List.nil_append,
    eraseDups_map_of_injective g.name_injective]

/-! ## folded modules -/

/-- **The services fold each module that is counted once, and no other.** -/
theorem Settled.perm_folded (h : t.Settled asked) :
    (t.standalone.flatMap fun a => (t.group a).tail).Perm
      (g.ids.filter fun m => t.role m = .folded) := by
  have hperm : t.allotted.Perm
      (t.standalone ++ t.standalone.flatMap fun a => (t.group a).tail) := by
    have hcons : t.allotted = t.standalone.flatMap fun a => [a] ++ (t.group a).tail := by
      refine List.flatMap_congr fun a ha => ?_
      exact group_eq_cons (h.not_circles_of_standalone ha)
    rw [hcons]
    refine (List.flatMap_append_perm _ _ _).symm.trans ?_
    rw [List.flatMap_singleton']
  have hnodup := (List.nodup_append.1 (hperm.nodup h.nodup_allotted))
  have hids : (g.ids.filter fun m => t.role m = .folded).Nodup :=
    (List.nodup_finRange g.size).filter _
  rw [List.perm_ext_iff_of_nodup hnodup.2.1 hids]
  intro m
  have hmem : m ∈ t.standalone ∨ (m ∈ t.standalone.flatMap fun a => (t.group a).tail) ↔
      t.count m ≠ 0 := by
    rw [← List.mem_append, ← hperm.mem_iff, h.mem_allotted]
  have hdisjoint : m ∈ t.standalone → m ∉ t.standalone.flatMap fun a => (t.group a).tail :=
    fun hs hf => hnodup.2.2 m hs m hf rfl
  rw [List.mem_filter, decide_eq_true_iff, role_eq_folded_iff]
  rw [mem_standalone] at hmem hdisjoint
  constructor
  · intro hf
    have hne := hmem.1 (.inr hf)
    have hle : ¬ 1 < t.count m := fun hs => hdisjoint hs hf
    exact ⟨g.mem_ids m, by omega⟩
  · rintro ⟨-, hone⟩
    exact (hmem.2 (by omega)).resolve_left (by omega)

/-! ## what is written -/

/-- what a report calls a module that was asked for so often -/
def roleWord : Nat → String
  | 0 => "unused"
  | 1 => "folded"
  | _ + 2 => "standalone"

/-- the line of a module -/
def moduleLine (name : String) (visits : Nat) : String :=
  "  - " ++ name ++ " (" ++ roleWord visits ++ ", visits=" ++ toString visits ++ ")\n"

/-- the names that a service folds, on a line of their own if there are any -/
def foldsLine : List String → String
  | [] => ""
  | name :: names => "      folds: " ++ ", ".intercalate (name :: names) ++ "\n"

/-- the line of a service, and the one with what it folds -/
def serviceLines (name : String) (memory dma flags : Nat) (folds : List String) : String :=
  "  - " ++ name ++ " (mem=" ++ toString memory ++ " dma=" ++ toString dma
    ++ " flags=" ++ toString flags ++ ")\n" ++ foldsLine folds

/-- A report: the roots, then two lists, each under its title and the number of its entries. -/
def page (roots : List String) (size : Nat) (modules : List String) (planned : Nat)
    (services : List String) : String :=
  "svcplan report (summary)\n========================\nroots: " ++ ", ".intercalate roots
    ++ "\n\nmodules (" ++ toString size ++ ")\n" ++ String.join modules
    ++ "\ncomponents (" ++ toString planned ++ ")\n" ++ String.join services

theorem label_role (t : Tally g) (m : Fin g.size) : (t.role m).label = roleWord (t.count m) := by
  rw [role]
  rcases t.count m with _ | _ | n <;> rfl

theorem text_moduleEntry (t : Tally g) (m : Fin g.size) :
    (Summary.ModuleEntry.mk (g.name m) (t.role m) (t.count m)).text =
      moduleLine (g.name m) (t.count m) := by
  rw [Summary.ModuleEntry.text, label_role]
  rfl

theorem text_serviceEntry (e : Summary.ServiceEntry) :
    e.text = serviceLines e.name e.memory e.dma e.flags e.folds := by
  rw [Summary.ServiceEntry.text, serviceLines]
  cases e.folds <;> rfl

/-- **A summary in words.** -/
theorem text_outlined (t : Tally g) (plan : ServicePlan) :
    (t.outlined plan).text = page (t.roots.map g.name)
      g.size (g.ids.map fun m => moduleLine (g.name m) (t.count m))
      plan.components.length ((t.outlined plan).services.map fun e =>
        serviceLines e.name e.memory e.dma e.flags e.folds) := by
  have hsize : (t.outlined plan).modules.length = g.size :=
    (List.length_map _).trans List.length_finRange
  have hmodules : (t.outlined plan).modules.map Summary.ModuleEntry.text =
      g.ids.map fun m => moduleLine (g.name m) (t.count m) := by
    rw [outlined, List.map_map]
    exact List.map_congr_left fun m _ => text_moduleEntry t m
  have hservices : (t.outlined plan).services.map Summary.ServiceEntry.text =
      (t.outlined plan).services.map fun e =>
        serviceLines e.name e.memory e.dma e.flags e.folds :=
    List.map_congr_left fun e _ => text_serviceEntry e
  have hroots : (t.outlined plan).roots = t.roots.map g.name := rfl
  have hplanned : (t.outlined plan).planned = plan.components.length := rfl
  unfold Summary.text page
  rw [hsize, hmodules, hservices, hroots, hplanned]

/-! ## the services of a summary -/

/-- the number of memory regions that modules ask for -/
def memoryCount (g : ModuleGraph) (ms : List (Fin g.size)) : Nat :=
  (ms.map fun k => (g.get k).resources.memory.length).sum

/-- the number of regions for devices that modules ask for -/
def dmaCount (g : ModuleGraph) (ms : List (Fin g.size)) : Nat :=
  (ms.map fun k => (g.get k).resources.dma.length).sum

theorem memory_described (t : Tally g) (m : Fin g.size) (policy : FlagPolicy) :
    (t.described m (t.composed policy m)).memory = memoryCount g (t.group m) := by
  rw [memoryCount, ← List.length_flatMap, ← memory_owned]
  rfl

theorem dma_described (t : Tally g) (m : Fin g.size) (policy : FlagPolicy) :
    (t.described m (t.composed policy m)).dma = dmaCount g (t.group m) := by
  rw [dmaCount, ← List.length_flatMap, ← dma_owned]
  rfl

theorem services_outlined_composed (t : Tally g) (policy : FlagPolicy) :
    (t.outlined ⟨t.standalone.map (t.composed policy)⟩).services =
      t.standalone.map fun m => t.described m (t.composed policy m) := by
  have hfound : ∀ m ∈ t.standalone,
      ((ServicePlan.mk (t.standalone.map (t.composed policy))).component? (g.name m)).map
        (t.described m) = some (t.described m (t.composed policy m)) := by
    intro m hm
    rw [component?_map_composed hm]
    rfl
  exact (List.filterMap_congr hfound).trans (congrFun List.filterMap_eq_map' _)

/-- the services that a plan names, each with its component -/
def named (t : Tally g) (plan : ServicePlan) : List (Fin g.size × Component) :=
  t.standalone.filterMap fun m => (plan.component? (g.name m)).map (Prod.mk m)

theorem mem_of_component?_eq_some {plan : ServicePlan} {n : String} {c : Component}
    (h : plan.component? n = some c) : c ∈ plan.components ∧ c.name = n := by
  rw [ServicePlan.component?] at h
  have hname := List.find?_some (p := fun c : Component => c.name == n) h
  exact ⟨List.mem_of_find?_eq_some h, eq_of_beq hname⟩

theorem services_outlined (t : Tally g) (plan : ServicePlan) :
    (t.outlined plan).services = (t.named plan).map fun e => t.described e.1 e.2 := by
  rw [named, List.map_filterMap]
  simp only [Option.map_map]
  rfl

theorem mem_named {plan : ServicePlan} {e : Fin g.size × Component} (h : e ∈ t.named plan) :
    e.1 ∈ t.standalone ∧ e.2 ∈ plan.components ∧ e.2.name = g.name e.1 := by
  obtain ⟨m, hm, he⟩ := List.mem_filterMap.1 h
  obtain ⟨c, hc, rfl⟩ := Option.map_eq_some_iff.1 he
  exact ⟨hm, mem_of_component?_eq_some hc⟩

theorem map_fst_named (t : Tally g) (plan : ServicePlan) :
    (t.named plan).map Prod.fst =
      t.standalone.filter fun m => g.name m ∈ plan.components.map Component.name := by
  rw [named, List.map_filterMap, ← List.filterMap_eq_filter]
  refine List.filterMap_congr fun m _ => ?_
  rw [Option.map_map]
  cases hc : plan.component? (g.name m) with
  | none =>
    rw [ServicePlan.component?, List.find?_eq_none] at hc
    have hnot : g.name m ∉ plan.components.map Component.name := by
      rintro hm
      obtain ⟨c, hmem, hname⟩ := List.mem_map.1 hm
      exact hc c hmem (beq_of_eq hname)
    rw [Option.guard_eq_none_iff.2 (by simpa using hnot)]
    rfl
  | some c =>
    obtain ⟨hc, hname⟩ := mem_of_component?_eq_some hc
    have hmem : g.name m ∈ plan.components.map Component.name :=
      hname ▸ List.mem_map_of_mem hc
    rw [Option.guard_eq_some_iff.2 ⟨rfl, by simpa using hmem⟩]
    rfl

/-! ## summaries of selections -/

section
variable (h : ofRoots g names = .ok t)
include h

theorem report_ofRoots (plan : ServicePlan) :
    t.report plan .summary = .ok (page names.eraseDups
      g.size (g.ids.map fun m => moduleLine (g.name m) (t.count m))
      plan.components.length ((t.outlined plan).services.map fun e =>
        serviceLines e.name e.memory e.dma e.flags e.folds)) := by
  have hwalks : ∀ m ∈ t.standalone, ¬ t.Circles m := fun m hm =>
    not_circles_ofRoots h (needed_of_mem_standalone h hm)
  have hreport : t.report plan .summary = (t.summary plan).map Summary.text := rfl
  rw [hreport, summary_eq hwalks, ← roots_ofRoots h, ← text_outlined]
  rfl

theorem perm_folded_ofRoots : (t.standalone.flatMap fun m => (t.group m).tail).Perm
    (g.ids.filter fun m => roleWord (t.count m) = "folded") := by
  obtain ⟨_, -, hs, -, -⟩ := settled_ofRoots h
  have hword : ∀ m, t.role m = .folded ↔ roleWord (t.count m) = "folded" := by
    intro m
    rw [← label_role]
    cases t.role m <;> decide
  simpa only [hword] using hs.perm_folded

end

/-- **Summaries agree with plans.** There is a report on a selection and any plan. It names the
distinct roots as they were first named, then lists each module once, in declared order, with its
count and the role that goes with it. With the selection's own plan, under each policy, it announces
and lists the components of the plan, in their order; the sizes of a component are the numbers of
regions that the service and the modules on its next line ask for, and the number of its flags. The
modules on these lines are those that the list of modules calls folded, each once. With any other
plan, the services that are listed are those that the plan names, in declared order, with the sizes
of the components that it has for them. -/
theorem summaries_agree_with_plans (g : ModuleGraph) (names : List String) (t : Tally g)
    (h : ofRoots g names = .ok t) :
    ∃ folds : Fin g.size → List (Fin g.size),
      (∀ m ∈ t.standalone, t.folded m = .ok (folds m)) ∧
      (t.standalone.flatMap folds).Nodup ∧
      (t.standalone.flatMap folds).Perm
        (g.ids.filter fun m => roleWord (t.count m) = "folded") ∧
      (∀ policy, ∃ plan, t.plan policy = .ok plan ∧
        plan.components.map Component.name = t.standalone.map g.name ∧
        t.report plan .summary = .ok (page names.eraseDups
          g.size (g.ids.map fun m => moduleLine (g.name m) (t.count m))
          plan.components.length (List.zipWith (fun m c =>
            serviceLines c.name (memoryCount g (m :: folds m)) (dmaCount g (m :: folds m))
              c.flags.length ((folds m).map g.name)) t.standalone plan.components))) ∧
      ∀ plan : ServicePlan, ∃ entries : List (Fin g.size × Component),
        entries.map Prod.fst =
          (t.standalone.filter fun m => g.name m ∈ plan.components.map Component.name) ∧
        (∀ e ∈ entries, e.2 ∈ plan.components ∧ e.2.name = g.name e.1) ∧
        t.report plan .summary = .ok (page names.eraseDups
          g.size (g.ids.map fun m => moduleLine (g.name m) (t.count m))
          plan.components.length (entries.map fun e =>
            serviceLines e.2.name e.2.resources.memory.length e.2.resources.dma.length
              e.2.flags.length ((folds e.1).map g.name))) := by
  have hwalks : ∀ m ∈ t.standalone, ¬ t.Circles m := fun m hm =>
    not_circles_ofRoots h (needed_of_mem_standalone h hm)
  have hfolds := perm_folded_ofRoots h
  have hids : (g.ids.filter fun m => roleWord (t.count m) = "folded").Nodup :=
    (List.nodup_finRange g.size).filter _
  refine ⟨fun m => (t.group m).tail, fun m hm => folded_eq (hwalks m hm), hfolds.nodup_iff.2 hids,
    hfolds, fun policy => ⟨_, plan_ofRoots h policy, List.map_map, ?_⟩, fun plan => ?_⟩
  · have hentries : (t.outlined ⟨t.standalone.map (t.composed policy)⟩).services.map (fun e =>
        serviceLines e.name e.memory e.dma e.flags e.folds) =
          List.zipWith (fun m c => serviceLines c.name (memoryCount g (m :: (t.group m).tail))
            (dmaCount g (m :: (t.group m).tail)) c.flags.length ((t.group m).tail.map g.name))
            t.standalone (t.standalone.map (t.composed policy)) := by
      rw [services_outlined_composed, List.map_map, List.zipWith_map_right, List.zipWith_self]
      refine List.map_congr_left fun m hm => ?_
      rw [← group_eq_cons (hwalks m hm), ← memory_described t m policy, ← dma_described t m policy]
      rfl
    rw [report_ofRoots h, hentries]
  · refine ⟨t.named plan, map_fst_named t plan, fun e he => (mem_named he).2, ?_⟩
    rw [report_ofRoots h, services_outlined, List.map_map]
    rfl

/-- The network stack folds its driver, which asks for regions. A plan for the test has no component
of the application, so this one has no line. -/
theorem summary_of_knot :
    ∃ (t : Tally knot) (plan : ServicePlan) (t' : Tally knot) (plan' : ServicePlan)
      (entries : List (Fin knot.size × Component)),
      ofRoots knot ["app", "app"] = .ok t ∧ t.plan .local = .ok plan ∧
      t.report plan .summary = .ok (page ["app"]
        5 [moduleLine "app" 2, moduleLine "net" 2, moduleLine "log" 3, moduleLine "nic" 1,
          moduleLine "test" 0]
        3 [serviceLines "app" 1 0 0 [], serviceLines "net" 1 1 1 ["nic"],
          serviceLines "log" 1 0 0 []]) ∧
      ofRoots knot ["test"] = .ok t' ∧ t'.plan .local = .ok plan' ∧
      entries.map Prod.fst = [1, 2] ∧
      t.report plan' .summary = .ok (page ["app"]
        5 [moduleLine "app" 2, moduleLine "net" 2, moduleLine "log" 3, moduleLine "nic" 1,
          moduleLine "test" 0]
        3 (entries.map fun e =>
          serviceLines e.2.name e.2.resources.memory.length e.2.resources.dma.length
            e.2.flags.length (if e.1 = 1 then ["nic"] else []))) := by
  have h' : ofRoots knot ["test"] = .ok ⟨#v[1, 2, 3, 1, 2], [4]⟩ := by cbv
  have hp : (⟨#v[2, 2, 3, 1, 0], [0]⟩ : Tally knot).plan .local = .ok ⟨[
      ⟨"app", "app.elf", ⟨[⟨16, 16, 1⟩], []⟩, []⟩,
      ⟨"net", "net.elf", ⟨[⟨16, 16, 1⟩], [⟨64, 1⟩]⟩, ["-lnet"]⟩,
      ⟨"log", "log.elf", ⟨[⟨32, 32, 1⟩], []⟩, []⟩]⟩ := by cbv
  have hp' : (⟨#v[1, 2, 3, 1, 2], [4]⟩ : Tally knot).plan .local = .ok ⟨[
      ⟨"net", "net.elf", ⟨[⟨16, 16, 1⟩], [⟨64, 1⟩]⟩, ["-lnet"]⟩,
      ⟨"log", "log.elf", ⟨[⟨32, 32, 1⟩], []⟩, []⟩,
      ⟨"test", "test.elf", ⟨[⟨48, 48, 1⟩, ⟨16, 16, 1⟩], []⟩, []⟩]⟩ := by cbv
  obtain ⟨folds, hfolded, -, -, hown, hother⟩ := summaries_agree_with_plans knot _ _ ofRoots_knot
  have hstandalone : (⟨#v[2, 2, 3, 1, 0], [0]⟩ : Tally knot).standalone = [0, 1, 2] := by decide
  rw [hstandalone] at hfolded hown
  have hfold : folds 0 = [] ∧ folds 1 = [3] ∧ folds 2 = [] :=
    ⟨Except.ok.inj ((hfolded 0 (by decide)).symm.trans (by cbv)),
      Except.ok.inj ((hfolded 1 (by decide)).symm.trans (by cbv)),
      Except.ok.inj ((hfolded 2 (by decide)).symm.trans (by cbv))⟩
  obtain ⟨plan, hplan, -, hreport⟩ := hown .local
  obtain rfl := Except.ok.inj (hp.symm.trans hplan)
  obtain ⟨entries, hentries, -, hreport'⟩ := hother ⟨[
      ⟨"net", "net.elf", ⟨[⟨16, 16, 1⟩], [⟨64, 1⟩]⟩, ["-lnet"]⟩,
      ⟨"log", "log.elf", ⟨[⟨32, 32, 1⟩], []⟩, []⟩,
      ⟨"test", "test.elf", ⟨[⟨48, 48, 1⟩, ⟨16, 16, 1⟩], []⟩, []⟩]⟩
  have hfst : entries.map Prod.fst = [1, 2] := hentries.trans (by decide)
  have hroots : ["app", "app"].eraseDups = ["app"] := by decide
  have hmodules : (knot.ids.map fun m => moduleLine (knot.name m)
      (count (⟨#v[2, 2, 3, 1, 0], [0]⟩ : Tally knot) m)) = [moduleLine "app" 2, moduleLine "net" 2,
        moduleLine "log" 3, moduleLine "nic" 1, moduleLine "test" 0] := rfl
  refine ⟨_, _, _, _, entries, ofRoots_knot, hp, ?_, h', hp', hfst, ?_⟩
  · rw [hreport, hroots, hmodules]
    simp only [List.zipWith_cons_cons, List.zipWith_nil_left, hfold.1, hfold.2.1, hfold.2.2]
    rfl
  · have hnames : ∀ e ∈ entries,
        (folds e.1).map knot.name = if e.1 = 1 then ["nic"] else [] := by
      intro e he
      have hmem : e.1 ∈ [1, 2] := hfst ▸ List.mem_map_of_mem he
      obtain h1 | h2 : e.1 = 1 ∨ e.1 = 2 := by simpa using hmem
      · rw [h1, hfold.2.1]
        rfl
      · rw [h2, hfold.2.2]
        rfl
    have hlines : (entries.map fun e => serviceLines e.2.name e.2.resources.memory.length
        e.2.resources.dma.length e.2.flags.length ((folds e.1).map knot.name)) =
          entries.map fun e => serviceLines e.2.name e.2.resources.memory.length
            e.2.resources.dma.length e.2.flags.length (if e.1 = 1 then ["nic"] else []) :=
      List.map_congr_left fun e he => by rw [hnames e he]
    rw [hreport', hroots, hmodules, hlines]
    rfl

end Tally

end ServiceBoundary
