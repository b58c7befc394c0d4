import ServiceBoundary.Proofs.Demand
import ServiceBoundary.Proofs.Planning

/-!
# Who owns a module

A tally is settled if it is accounted for and every module that was asked for is a service. Then a
counted module that is no service has one user, and that user was met by one walk, at one place of
it; so the module is met once as well. Along the ways from the roots this reaches every counted
module.

* `Settled.count_allotted`   the walks from all services meet each counted module once;
* `Settled.owner_unique`     no two services lead to a module without crossing a service;
* `Settled.exists_split`     a way from a root to a folded module crosses its service, and nothing
  but folded modules comes behind;
* `settled_ofRoots`          the tally of a selection is settled;
* `owned_exactly_once`, `folded_only_through_owner`   what this says of a selection and its plan.
-/

namespace ServiceBoundary
open Relation

namespace Tally
open ModuleGraph (knot)
variable {g : ModuleGraph} {t : Tally g} {m a b p d k : Fin g.size}
  {asked services path : List (Fin g.size)} {names : List String}

/-! ## all walks together -/

/-- every service with all that is folded into it, one service after the other -/
def allotted (t : Tally g) : List (Fin g.size) := t.standalone.flatMap t.group

/-- walks from several modules meet a module as one walk does: once for each time that a walk
starts there, and once for each time that one of them enters it -/
theorem count_flatMap_group (h : ∀ m ∈ services, ¬ t.Circles m) (k : Fin g.size) :
    (services.flatMap t.group).count k =
      services.count k + (services.flatMap t.group).countP (t.Enters · k) := by
  induction services with
  | nil => rfl
  | cons m ms ih =>
    have hm := count_group (h m List.mem_cons_self) k
    have hms := ih fun x hx => h x (List.mem_cons_of_mem _ hx)
    rw [List.flatMap_cons, List.count_append, List.countP_append, hm, hms, List.count_cons]
    simp only [beq_iff_eq]
    omega

theorem nodup_standalone (t : Tally g) : t.standalone.Nodup :=
  (List.nodup_finRange g.size).filter _

theorem count_ne_zero_of_mem_standalone (hm : m ∈ t.standalone) : t.count m ≠ 0 := by
  have := mem_standalone.1 hm
  omega

theorem ne_of_mem_standalone (ha : a ∈ t.standalone) (hm : t.count m < 2) : m ≠ a := by
  rintro rfl
  have := mem_standalone.1 ha
  omega

/-! ## settled tallies -/

/-- the tally is accounted for, and every asked module is a service -/
structure Settled (t : Tally g) (asked : List (Fin g.size)) : Prop extends t.Accounted asked where
  two_le : ∀ r ∈ asked, 2 ≤ t.count r

theorem settled_promote_visitAll (ids : List (Fin g.size)) :
    (((∅ : Tally g).visitAll ids).promote ids).Settled ids where
  toAccounted := by
    have h := Accounted.empty.visitAll ids
    rw [List.append_nil] at h
    exact h.promote fun m hm => count_visitAll_ne_zero_of_mem ∅ hm
  two_le r hr := by
    rw [count_promote, if_pos hr]
    exact Nat.le_max_left _ _

namespace Settled
variable (h : t.Settled asked)
include h

theorem not_circles_of_standalone (hm : m ∈ t.standalone) : ¬ t.Circles m :=
  h.not_circles (count_ne_zero_of_mem_standalone hm)

theorem count_ne_zero_of_mem_group (ha : a ∈ t.standalone) (hm : m ∈ t.group a) :
    t.count m ≠ 0 := by
  have ham := (mem_group (h.not_circles_of_standalone ha)).1 hm
  exact h.count_ne_zero_of_reflTransGen (count_ne_zero_of_mem_standalone ha) (reflTransGen_uses ham)

theorem count_ne_zero_of_mem_allotted (hm : m ∈ t.allotted) : t.count m ≠ 0 := by
  obtain ⟨a, ha, hma⟩ := List.mem_flatMap.1 hm
  exact h.count_ne_zero_of_mem_group ha hma

theorem count_allotted_of_service (hd : 2 ≤ t.count d) : t.allotted.count d = 1 := by
  have hone : t.standalone.count d = 1 :=
    List.count_eq_one_of_mem t.nodup_standalone (mem_standalone.2 hd)
  have hnot : t.allotted.countP (t.Enters · d) = 0 := by
    refine List.countP_eq_zero.2 fun x _ hx => ?_
    have := (of_decide_eq_true hx).2
    omega
  have := count_flatMap_group (fun m => h.not_circles_of_standalone) d
  rw [allotted] at hnot ⊢
  omega

theorem count_allotted_of_uses (hp : t.count p ≠ 0) (hpd : g.Uses p d) (hd : t.count d < 2) :
    t.allotted.count d = t.allotted.count p := by
  have hnone : t.standalone.count d = 0 :=
    List.count_eq_zero_of_not_mem fun hm => by
      have := mem_standalone.1 hm
      omega
  have huser : t.allotted.countP (t.Enters · d) = t.allotted.count p := by
    refine List.countP_congr fun x hx => ?_
    rw [decide_eq_true_iff, beq_iff_eq]
    constructor
    · intro hxd
      exact h.user_unique hd (h.count_ne_zero_of_mem_allotted hx) hp hxd.1 hpd
    · rintro rfl
      exact ⟨hpd, hd⟩
  calc t.allotted.count d = t.standalone.count d + t.allotted.countP (t.Enters · d) :=
        count_flatMap_group (fun m => h.not_circles_of_standalone) d
    _ = t.allotted.count p := by rw [hnone, huser, Nat.zero_add]

/-- **The walks from all services meet each counted module once.** -/
theorem count_allotted (hm : t.count m ≠ 0) : t.allotted.count m = 1 := by
  obtain ⟨r, hr, hrm⟩ := h.exists_asked m hm
  clear hm
  induction hrm with
  | refl => exact h.count_allotted_of_service (h.two_le r hr)
  | @tail p d hrp hpd ih =>
    have hp := h.count_ne_zero_of_reflTransGen (h.count_ne_zero_of_asked hr) hrp
    by_cases hd : 2 ≤ t.count d
    · exact h.count_allotted_of_service hd
    · rw [h.count_allotted_of_uses hp hpd (Nat.lt_of_not_le hd), ih]

theorem mem_allotted : m ∈ t.allotted ↔ t.count m ≠ 0 := by
  refine ⟨h.count_ne_zero_of_mem_allotted, fun hm => ?_⟩
  rw [← List.count_pos_iff, h.count_allotted hm]
  exact Nat.one_pos

theorem nodup_allotted : t.allotted.Nodup :=
  List.nodup_iff_count_eq_one.2 fun _ hm => h.count_allotted (h.count_ne_zero_of_mem_allotted hm)

/-! ## the owner of a module -/

theorem exists_owner (hm : t.count m ≠ 0) : ∃ a ∈ t.standalone, ReflTransGen t.Enters a m := by
  obtain ⟨a, ha, hma⟩ := List.mem_flatMap.1 (h.mem_allotted.2 hm)
  exact ⟨a, ha, (mem_group (h.not_circles_of_standalone ha)).1 hma⟩

theorem count_ne_zero_of_enters (ha : a ∈ t.standalone) (ham : ReflTransGen t.Enters a m) :
    t.count m ≠ 0 :=
  h.count_ne_zero_of_mem_group ha ((mem_group (h.not_circles_of_standalone ha)).2 ham)

theorem owner_unique (ha : a ∈ t.standalone) (hb : b ∈ t.standalone)
    (ham : ReflTransGen t.Enters a m) (hbm : ReflTransGen t.Enters b m) : a = b := by
  induction ham with
  | refl =>
    rcases hbm.cases_tail with hab | ⟨q, -, hqa⟩
    · exact hab
    · exact absurd rfl (ne_of_mem_standalone ha hqa.2)
  | @tail p d hap hpd ih =>
    rcases hbm.cases_tail with hdb | ⟨q, hbq, hqd⟩
    · exact absurd hdb (ne_of_mem_standalone hb hpd.2)
    · have hqp : q = p := h.user_unique hpd.2 (h.count_ne_zero_of_enters hb hbq)
        (h.count_ne_zero_of_enters ha hap) hqd.1 hpd.1
      exact ih (hqp ▸ hbq)

theorem enters_of_uses (ha : a ∈ t.standalone) (ham : ReflTransGen t.Enters a m)
    (hm : t.count m < 2) (hp : t.count p ≠ 0) (hpm : g.Uses p m) :
    ReflTransGen t.Enters a p := by
  rcases ham.cases_tail with hma | ⟨q, haq, hqm⟩
  · exact absurd hma (ne_of_mem_standalone ha hm)
  · have hqp : q = p := h.user_unique hm (h.count_ne_zero_of_enters ha haq) hp hqm.1 hpm
    exact hqp ▸ haq

/-- **A way from an asked module to a folded one crosses the service**, and behind the last crossing
come modules that are folded into it. -/
theorem exists_split (ha : a ∈ t.standalone) (ham : ReflTransGen t.Enters a m)
    (hpath : path.IsChain g.Uses) (hhead : ∃ r, path.head? = some r ∧ r ∈ asked)
    (hlast : path.getLast? = some m) :
    ∃ before after, path = before ++ a :: after ∧ a ∉ after ∧
      ∀ x ∈ after, ReflTransGen t.Enters a x := by
  induction ham generalizing path with
  | refl =>
    obtain ⟨before, rfl⟩ := List.getLast?_eq_some_iff.1 hlast
    exact ⟨before, [], rfl, List.not_mem_nil, fun x hx => absurd hx List.not_mem_nil⟩
  | @tail p d hap hpd ih =>
    obtain ⟨init, rfl⟩ := List.getLast?_eq_some_iff.1 hlast
    obtain ⟨r, hr, hrasked⟩ := hhead
    cases init with
    | nil =>
      -- the way would start at `d`, which is no service
      obtain rfl : d = r := by simpa using hr
      have := hpd.2
      have := h.two_le d hrasked
      omega
    | cons c cs =>
      obtain rfl : c = r := by simpa using hr
      obtain ⟨hinit, -, hlink⟩ := List.isChain_append.1 hpath
      obtain ⟨q, hq⟩ : ∃ q, (c :: cs).getLast? = some q :=
        ⟨_, List.getLast?_eq_getLast_of_ne_nil (List.cons_ne_nil c cs)⟩
      have hqd : g.Uses q d := hlink q hq d rfl
      have hcq := reflTransGen_of_isChain hinit (List.mem_of_getLast? hq)
      have hqne := h.count_ne_zero_of_reflTransGen (h.count_ne_zero_of_asked hrasked) hcq
      have hqp : q = p := h.user_unique hpd.2 hqne (h.count_ne_zero_of_enters ha hap) hqd hpd.1
      obtain ⟨before, after, hsplit, hnot, hafter⟩ := ih hinit ⟨c, rfl, hrasked⟩ (hqp ▸ hq)
      have hda : d ≠ a := ne_of_mem_standalone ha hpd.2
      refine ⟨before, after ++ [d], ?_, ?_, ?_⟩
      · rw [hsplit, List.append_assoc, List.cons_append]
      · rw [List.mem_append, List.mem_singleton, not_or]
        exact ⟨hnot, hda.symm⟩
      · intro x hx
        rcases List.mem_append.1 hx with hx | hx
        · exact hafter x hx
        · rw [List.mem_singleton.1 hx]
          exact hap.tail hpd

/-! ## what the services own -/

/-- what the services list over all their modules is what the counted modules list -/
theorem sum_count_flatMap_group {β : Type} [DecidableEq β] (f : Fin g.size → List β) (b : β) :
    (t.standalone.map fun m => ((t.group m).flatMap f).count b).sum =
      ∑ m with t.count m ≠ 0, (f m).count b := by
  have hset : t.allotted.toFinset = Finset.univ.filter (t.count · ≠ 0) := by
    ext m
    rw [List.mem_toFinset, h.mem_allotted]
    simp
  calc (t.standalone.map fun m => ((t.group m).flatMap f).count b).sum
      = (t.standalone.flatMap fun m => (t.group m).flatMap f).count b := by
        rw [List.count_flatMap]
        rfl
    _ = (t.allotted.map fun m => (f m).count b).sum := by
        rw [← List.flatMap_assoc, List.count_flatMap]
        rfl
    _ = ∑ m with t.count m ≠ 0, (f m).count b := by
        rw [← List.sum_toFinset _ h.nodup_allotted, hset]

theorem sum_count_composed {β : Type} [DecidableEq β] {regions : Resources → List β}
    (hjoin : ∀ rs, regions (Resources.join rs) = rs.flatMap regions) (policy : FlagPolicy) (b : β) :
    ((t.standalone.map (t.composed policy)).map fun c => (regions c.resources).count b).sum =
      ∑ m with t.count m ≠ 0, (regions (g.get m).resources).count b := by
  rw [← h.sum_count_flatMap_group (fun k => regions (g.get k).resources) b, List.map_map]
  refine congrArg List.sum (List.map_congr_left fun a _ => ?_)
  change (regions (t.owned a)).count b = _
  rw [owned, hjoin, List.flatMap_map]

end Settled

/-! ## selections -/

theorem settled_ofRoots (h : ofRoots g names = .ok t) :
    ∃ ids : List (Fin g.size), (∀ r, r ∈ ids ↔ g.name r ∈ names) ∧ t.Settled ids ∧
      (∀ m, t.count m ≠ 0 ↔ g.Needed names m) ∧ t.standalone ≠ [] := by
  obtain ⟨hne, ids, hids, rfl⟩ := ofRoots_eq_ok_iff.1 h
  have hs := settled_promote_visitAll ids
  refine ⟨ids, fun r => ModuleGraph.mem_iff_of_map_name hids, hs,
    fun m => count_ne_zero_iff_needed hids, ?_⟩
  cases ids with
  | nil => exact absurd hids.symm hne
  | cons r _ =>
    intro hnone
    have := mem_standalone.2 (hs.two_le r List.mem_cons_self)
    rw [hnone] at this
    cases this

/-- **Every needed module is owned exactly once.** The walks from the services, one after the other,
list every needed module once and no other module. So the plan has each region as often as the
needed modules declare it. -/
theorem owned_exactly_once (g : ModuleGraph) (names : List String) (t : Tally g)
    (h : ofRoots g names = .ok t) :
    (∃ lists, (t.standalone.mapM fun a => (a :: ·) <$> t.folded a) = .ok lists ∧
      ∀ m, lists.flatten.count m = if g.Needed names m then 1 else 0) ∧
    ∀ policy, ∃ plan, t.plan policy = .ok plan ∧
      (∀ r, (plan.components.map fun c => c.resources.memory.count r).sum =
        ∑ m ∈ g.needed names, (g.get m).resources.memory.count r) ∧
      ∀ r, (plan.components.map fun c => c.resources.dma.count r).sum =
        ∑ m ∈ g.needed names, (g.get m).resources.dma.count r := by
  obtain ⟨ids, -, hs, hneeded, hne⟩ := settled_ofRoots h
  have hwalks : ∀ m, 1 < t.count m → ¬ t.Circles m := fun m hm => hs.not_circles (by omega)
  have hset : g.needed names = Finset.univ.filter (t.count · ≠ 0) := by
    ext m
    rw [ModuleGraph.mem_needed, ← hneeded m]
    simp
  refine ⟨⟨t.standalone.map t.group, ?_, fun m => ?_⟩, fun policy => ⟨_,
    plan_eq_ok hwalks hne policy, fun r => ?_, fun r => ?_⟩⟩
  · refine mapM_eq_ok_map fun a ha => ?_
    have hca := hs.not_circles_of_standalone ha
    rw [folded_eq hca, group_eq_cons hca]
    rfl
  · rw [← List.flatMap_def]
    split
    case isTrue hm => exact hs.count_allotted ((hneeded m).2 hm)
    case isFalse hm =>
      refine List.count_eq_zero_of_not_mem fun hmem => hm ?_
      exact (hneeded m).1 (hs.count_ne_zero_of_mem_allotted hmem)
  · rw [hset]
    exact hs.sum_count_composed Resources.memory_join policy r
  · rw [hset]
    exact hs.sum_count_composed Resources.dma_join policy r

theorem knot_owned_once :
    ∃ t lists plan, ofRoots knot ["app", "app"] = .ok t ∧
      (t.standalone.mapM fun a => (a :: ·) <$> t.folded a) = .ok lists ∧
      lists = [[0], [1, 3], [2]] ∧ (∀ m, knot.Needed ["app", "app"] m ↔ m ≠ 4) ∧
      t.plan .local = .ok plan ∧
      (plan.components.map fun c => c.resources.memory.count ⟨16, 16, 1⟩).sum = 2 ∧
      ∑ m ∈ knot.needed ["app", "app"], (knot.get m).resources.memory.count ⟨16, 16, 1⟩ = 2 := by
  obtain ⟨⟨lists, hlists, hcount⟩, hplan⟩ := owned_exactly_once knot ["app", "app"] _ ofRoots_knot
  obtain ⟨plan, hplan, hmemory, -⟩ := hplan .local
  have hl : ((⟨#v[2, 2, 3, 1, 0], [0]⟩ : Tally knot).standalone.mapM fun a =>
      (a :: ·) <$> Tally.folded (⟨#v[2, 2, 3, 1, 0], [0]⟩ : Tally knot) a) =
        .ok [[0], [1, 3], [2]] := by cbv
  obtain rfl : [[0], [1, 3], [2]] = lists := Except.ok.inj (hl.symm.trans hlists)
  have hp : (⟨#v[2, 2, 3, 1, 0], [0]⟩ : Tally knot).plan .local = .ok ⟨[
      ⟨"app", "app.elf", ⟨[⟨16, 16, 1⟩], []⟩, []⟩,
      ⟨"net", "net.elf", ⟨[⟨16, 16, 1⟩], [⟨64, 1⟩]⟩, ["-lnet"]⟩,
      ⟨"log", "log.elf", ⟨[⟨32, 32, 1⟩], []⟩, []⟩]⟩ := by cbv
  obtain rfl := Except.ok.inj (hp.symm.trans hplan)
  refine ⟨_, _, _, ofRoots_knot, hlists, rfl, fun m => ?_, hplan, rfl,
    (hmemory ⟨16, 16, 1⟩).symm⟩
  have hm := hcount m
  by_cases hn : knot.Needed ["app", "app"] m
  · rw [if_pos hn] at hm
    refine iff_of_true hn ?_
    clear hn
    revert m
    decide
  · rw [if_neg hn] at hm
    refine iff_of_false hn ?_
    clear hn
    revert m
    decide

/-- **A folded module is only used through its owner.** One service folds it. Every way from a root
to it crosses this service, behind whose last place on the way come folded modules of the service
only; and its needed users are the service and folded modules of the service, so no other service
depends on it. -/
theorem folded_only_through_owner (g : ModuleGraph) (names : List String) (t : Tally g)
    (h : ofRoots g names = .ok t) (m : Fin g.size) (hm : t.role m = .folded) :
    ∃ a ms, a ∈ t.standalone ∧ t.folded a = .ok ms ∧ m ∈ ms ∧
      (∀ b ∈ t.standalone, ∀ ms', t.folded b = .ok ms' → m ∈ ms' → b = a) ∧
      (∀ path, path.IsChain g.Uses → (∃ r, path.head? = some r ∧ g.name r ∈ names) →
        path.getLast? = some m →
        ∃ before after, path = before ++ a :: after ∧ a ∉ after ∧ ∀ x ∈ after, x ∈ ms) ∧
      (∀ p, g.Needed names p → g.Uses p m → p = a ∨ p ∈ ms) ∧
      ∀ b ∈ t.standalone, g.Uses b m → b = a := by
  obtain ⟨ids, hids, hs, hneeded, -⟩ := settled_ofRoots h
  have hone : t.count m = 1 := role_eq_folded_iff.1 hm
  obtain ⟨a, ha, ham⟩ := hs.exists_owner (m := m) (by omega)
  have hca := hs.not_circles_of_standalone ha
  have hma : m ≠ a := ne_of_mem_standalone ha (by omega)
  have huser : ∀ p, t.count p ≠ 0 → g.Uses p m → ReflTransGen t.Enters a p := fun p hp hpm =>
    hs.enters_of_uses ha ham (by omega) hp hpm
  refine ⟨a, (t.group a).tail, ha, folded_eq hca, mem_tail_group hca ham hma, ?_, ?_, ?_, ?_⟩
  · intro b hb ms hms hmem
    have hcb := hs.not_circles_of_standalone hb
    rw [folded_eq hcb] at hms
    rw [← Except.ok.inj hms] at hmem
    exact hs.owner_unique hb ha ((mem_group hcb).1 (List.mem_of_mem_tail hmem)) ham
  · rintro path hpath ⟨r, hr, hname⟩ hlast
    obtain ⟨before, after, hsplit, hnot, hafter⟩ :=
      hs.exists_split ha ham hpath ⟨r, hr, (hids r).2 hname⟩ hlast
    exact ⟨before, after, hsplit, hnot, fun x hx => mem_tail_group hca (hafter x hx)
      fun hxa => hnot (hxa ▸ hx)⟩
  · intro p hp hpm
    by_cases hpa : p = a
    · exact Or.inl hpa
    · exact Or.inr (mem_tail_group hca (huser p ((hneeded p).2 hp) hpm) hpa)
  · intro b hb hbm
    exact hs.owner_unique hb ha ReflTransGen.refl
      (huser b (count_ne_zero_of_mem_standalone hb) hbm)

theorem nic_of_knot_only_through_net :
    ∃ t, ofRoots knot ["app", "app"] = .ok t ∧ t.role 3 = .folded ∧ t.folded 1 = .ok [3] ∧
      ∀ b ∈ t.standalone, knot.Uses b 3 → b = 1 := by
  obtain ⟨a, ms, ha, hms, hmem, hone, -, -, huser⟩ :=
    folded_only_through_owner knot ["app", "app"] _ ofRoots_knot 3 rfl
  have hnet : Tally.folded (⟨#v[2, 2, 3, 1, 0], [0]⟩ : Tally knot) 1 = .ok [3] := by cbv
  obtain rfl : 1 = a := hone 1 (by decide) [3] hnet (by decide)
  exact ⟨_, ofRoots_knot, rfl, hnet, huser⟩

end Tally

end ServiceBoundary
