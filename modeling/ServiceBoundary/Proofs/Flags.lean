import ServiceBoundary.Distinct
import ServiceBoundary.Proofs.Ownership

/-!
# Build flags

Under the transitive policy flags are collected twice: a service gets the flags of all its modules,
each once, and the plan lists the flags of all services, each once. One pass over the flags of all
modules gives the same list, in the same order, because dropping what comes again in a part of a
list drops nothing that the whole list keeps. As the services share out the needed modules, no flag
of a needed module is lost, and no other one comes in.

* `eraseDups_append_congr`    which entries of a list come first is decided by those of its parts;
* `eraseDups_flatMap_congr`   the same for many parts;
* `allFlags_composed`         the flags of a plan, under each policy;
* `flags_follow_ownership`    the flags of the services and of the plans of a selection.
-/

namespace ServiceBoundary

/-! ## first occurrences -/

section
variable {α β : Type} [BEq α] [LawfulBEq α] {l l' r r' : List α}

theorem eraseDups_filter (p : α → Bool) (l : List α) :
    (l.filter p).eraseDups = l.eraseDups.filter p := by
  -- the tail is filtered before it is treated, so the induction is on the length
  induction h : l.length using Nat.strongRecOn generalizing l with
  | _ n ih =>
    cases l with
    | nil => rfl
    | cons a l =>
      have hlen : (l.filter fun b => !b == a).length < n := by
        have := List.length_filter_le (fun b => !b == a) l
        rw [List.length_cons] at h
        omega
      have htail := ih _ hlen _ rfl
      rw [List.filter_filter] at htail
      rw [List.eraseDups_cons, List.filter_cons, List.filter_cons]
      by_cases ha : p a
      · rw [if_pos ha, if_pos ha, List.eraseDups_cons, List.filter_filter, ← htail]
        refine congrArg (a :: List.eraseDups ·) (List.filter_congr fun b _ => Bool.and_comm _ _)
      · rw [if_neg ha, if_neg ha, ← htail]
        refine congrArg List.eraseDups (List.filter_congr fun b _ => ?_)
        by_cases hb : b = a
        · subst hb
          simp [ha]
        · simp [hb]

theorem eraseDups_append_filter (l r : List α) :
    (l ++ r).eraseDups = l.eraseDups ++ r.eraseDups.filter fun a => !l.contains a := by
  rw [List.eraseDups_append, List.removeAll, eraseDups_filter]

theorem eraseDups_of_nodup (h : l.Nodup) : l.eraseDups = l := by
  induction l with
  | nil => rfl
  | cons a l ih =>
    obtain ⟨ha, hl⟩ := List.nodup_cons.1 h
    have hkeep : (l.filter fun b => !b == a) = l := by
      refine List.filter_eq_self.2 fun b hb => ?_
      have hne : b ≠ a := fun heq => ha (heq ▸ hb)
      simpa using hne
    rw [List.eraseDups_cons, hkeep, ih hl]

theorem eraseDups_eraseDups (l : List α) : l.eraseDups.eraseDups = l.eraseDups :=
  eraseDups_of_nodup (nodup_eraseDups l)

/-- **What comes first in a list is decided by what comes first in its parts.** -/
theorem eraseDups_append_congr (hl : l.eraseDups = l'.eraseDups)
    (hr : r.eraseDups = r'.eraseDups) : (l ++ r).eraseDups = (l' ++ r').eraseDups := by
  have hcontains : ∀ a, l.contains a = l'.contains a := by
    intro a
    rw [Bool.eq_iff_iff, List.contains_iff_mem, List.contains_iff_mem, ← List.mem_eraseDups, hl,
      List.mem_eraseDups]
  rw [eraseDups_append_filter, eraseDups_append_filter, hl, hr]
  simp only [hcontains]

theorem eraseDups_flatMap_congr {f f' : β → List α} {bs : List β}
    (h : ∀ b ∈ bs, (f b).eraseDups = (f' b).eraseDups) :
    (bs.flatMap f).eraseDups = (bs.flatMap f').eraseDups := by
  induction bs with
  | nil => rfl
  | cons b bs ih =>
    rw [List.flatMap_cons, List.flatMap_cons]
    exact eraseDups_append_congr (h b List.mem_cons_self)
      (ih fun x hx => h x (List.mem_cons_of_mem _ hx))

theorem eraseDups_prefix_append (l r : List α) : l.eraseDups <+: (l ++ r).eraseDups := by
  rw [List.eraseDups_append]
  exact List.prefix_append _ _

end

/-- An application folds a library; a tool is a service of its own. -/
def ModuleGraph.trio : ModuleGraph where
  size := 3
  modules := #v[
    { name := "app", source := "app.elf", resources := {}, flags := ["-g", "-O2", "-g"],
      dependencies := [1], dependencies_nodup := by decide },
    { name := "lib", source := "lib.elf", resources := {}, flags := ["-O2", "-lz"],
      dependencies := [], dependencies_nodup := by decide },
    { name := "tool", source := "tool.elf", resources := {}, flags := ["-lz", "-s"],
      dependencies := [], dependencies_nodup := by decide }]
  names_nodup := by decide

instance : NeZero ModuleGraph.trio.size := ⟨by decide⟩

namespace Tally
open ModuleGraph (trio)
variable {g : ModuleGraph} {t : Tally g} {a : Fin g.size} {names : List String}

/-! ## plans -/

theorem ownFlags_transitive (h : ¬ t.Circles a) : t.ownFlags .transitive a =
    ((g.get a).flags ++ (t.group a).tail.flatMap fun k => (g.get k).flags).eraseDups := by
  rw [ownFlags, group_eq_cons h]
  rfl

/-- **One pass is enough.** The flags of a transitive plan are those of all modules of its services,
each at its first place. -/
theorem allFlags_transitive (t : Tally g) :
    ServicePlan.allFlags ⟨t.standalone.map (t.composed .transitive)⟩ =
      (t.allotted.flatMap fun k => (g.get k).flags).eraseDups := by
  rw [ServicePlan.allFlags, List.flatMap_map, allotted, List.flatMap_assoc]
  exact eraseDups_flatMap_congr fun a _ => eraseDups_eraseDups _

theorem allFlags_local (t : Tally g) :
    ServicePlan.allFlags ⟨t.standalone.map (t.composed .local)⟩ =
      (t.standalone.flatMap fun k => (g.get k).flags).eraseDups := by
  rw [ServicePlan.allFlags, List.flatMap_map]
  rfl

/-- **Build flags follow ownership.** Under the transitive policy a service has the flags of its own
and of what is folded into it, each at its first place, and its own come first. The flags of the
plan are those of all needed modules, as the walks from the services list them, each at its first
place; under the local policy they are those of the services. The policy changes nothing but
flags. -/
theorem flags_follow_ownership (g : ModuleGraph) (names : List String) (t : Tally g)
    (h : ofRoots g names = .ok t) :
    (∀ a ∈ t.standalone, ∃ folded own all, t.folded a = .ok folded ∧
      t.flags a .local = .ok own ∧ t.flags a .transitive = .ok all ∧ own = (g.get a).flags ∧
      all = ((g.get a).flags ++ folded.flatMap fun k => (g.get k).flags).eraseDups ∧
      own.eraseDups <+: all) ∧
    ∃ lists own all, (t.standalone.mapM fun a => (a :: ·) <$> t.folded a) = .ok lists ∧
      (∀ m, m ∈ lists.flatten ↔ g.Needed names m) ∧
      t.plan .local = .ok own ∧ t.plan .transitive = .ok all ∧
      all.allFlags = (lists.flatten.flatMap fun k => (g.get k).flags).eraseDups ∧
      all.allFlags.Nodup ∧
      (∀ flag, flag ∈ all.allFlags ↔ ∃ m, g.Needed names m ∧ flag ∈ (g.get m).flags) ∧
      own.allFlags.Nodup ∧
      (∀ flag, flag ∈ own.allFlags ↔ ∃ m ∈ t.standalone, flag ∈ (g.get m).flags) ∧
      own.components.map (fun c => (c.name, c.source, c.resources)) =
        all.components.map fun c => (c.name, c.source, c.resources) := by
  obtain ⟨ids, -, hs, hneeded, hne⟩ := settled_ofRoots h
  have hwalks : ∀ m, 1 < t.count m → ¬ t.Circles m := fun m hm => hs.not_circles (by omega)
  have hlists : (t.standalone.mapM fun a => (a :: ·) <$> t.folded a) =
      .ok (t.standalone.map t.group) := by
    refine mapM_eq_ok_map fun a ha => ?_
    have hca := hs.not_circles_of_standalone ha
    rw [folded_eq hca, group_eq_cons hca]
    rfl
  refine ⟨fun a ha => ?_, _, _, _, hlists, fun m => ?_, plan_eq_ok hwalks hne .local,
    plan_eq_ok hwalks hne .transitive, ?_, nodup_eraseDups _, fun flag => ?_, nodup_eraseDups _,
    fun flag => ?_, ?_⟩
  · have hca := hs.not_circles_of_standalone ha
    refine ⟨_, _, _, folded_eq hca, flags_eq hca .local, flags_eq hca .transitive, rfl,
      ownFlags_transitive hca, ?_⟩
    rw [ownFlags_transitive hca]
    exact eraseDups_prefix_append _ _
  · rw [← List.flatMap_def]
    exact hs.mem_allotted.trans (hneeded m)
  · rw [← List.flatMap_def]
    exact allFlags_transitive t
  · rw [allFlags_transitive, List.mem_eraseDups, List.mem_flatMap]
    exact exists_congr fun m => and_congr_left' (hs.mem_allotted.trans (hneeded m))
  · rw [allFlags_local, List.mem_eraseDups, List.mem_flatMap]
  · rw [List.map_map, List.map_map]
    rfl

theorem flags_of_trio :
    ∃ t lists all, ofRoots trio ["app", "tool"] = .ok t ∧
      (t.standalone.mapM fun a => (a :: ·) <$> t.folded a) = .ok lists ∧
      lists = [[0, 1], [2]] ∧ t.flags 0 .local = .ok ["-g", "-O2", "-g"] ∧
      t.flags 0 .transitive = .ok ["-g", "-O2", "-lz"] ∧ t.plan .transitive = .ok all ∧
      all.allFlags = ["-g", "-O2", "-lz", "-s"] := by
  have ht : ofRoots trio ["app", "tool"] = .ok ⟨#v[2, 1, 2], [0, 2]⟩ := by cbv
  obtain ⟨hservices, lists, -, all, hlists, -, -, hplan, hall, -⟩ :=
    flags_follow_ownership trio ["app", "tool"] _ ht
  have hl : ((⟨#v[2, 1, 2], [0, 2]⟩ : Tally trio).standalone.mapM fun a =>
      (a :: ·) <$> Tally.folded (⟨#v[2, 1, 2], [0, 2]⟩ : Tally trio) a) = .ok [[0, 1], [2]] := by
    cbv
  have hf : Tally.folded (⟨#v[2, 1, 2], [0, 2]⟩ : Tally trio) 0 = .ok [1] := by cbv
  obtain rfl : [[0, 1], [2]] = lists := Except.ok.inj (hl.symm.trans hlists)
  obtain ⟨folded, own, both, hfolded, hown, hboth, rfl, rfl, -⟩ := hservices 0 (by decide)
  obtain rfl : [1] = folded := Except.ok.inj (hf.symm.trans hfolded)
  exact ⟨_, _, all, ht, hlists, rfl, hown, hboth, hplan, hall⟩

end Tally

end ServiceBoundary
