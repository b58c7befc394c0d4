import ServiceBoundary.Proofs.Linking

/-!
# What linking answers

Linking looks at names first. If one is declared again, the first declaration that does so is named,
and no dependency is looked at. Else the declarations are taken in order, with the dependencies of
each in order, and the first dependency that nobody declares is named. Else there is a graph, in
which modules stand as they were declared and each is found under its name.

* `exists_repeats_eq_cons`   the first name that is declared again;
* `Declaration.exists_linkAll_eq_error`   the first dependency that nobody declares;
* `getElem?_of_link`         the modules of the graph;
* `link_outcome`             the three answers, and when each is given.
-/

namespace ServiceBoundary

/-! ## first repetitions -/

theorem exists_go_eq_cons {α : Type} [BEq α] [LawfulBEq α] {seen l rest : List α} {a : α}
    (h : repeats.go seen l = a :: rest) : ∃ before after, l = before ++ a :: after ∧
      before.Nodup ∧ (∀ b ∈ before, b ∉ seen) ∧ (a ∈ seen ∨ a ∈ before) := by
  induction l generalizing seen with
  | nil => cases h
  | cons b l ih =>
    rw [repeats.go] at h
    split at h
    · next hb =>
      obtain ⟨rfl, -⟩ := List.cons.inj h
      exact ⟨[], l, rfl, List.nodup_nil, List.forall_mem_nil _, .inl (List.contains_iff_mem.1 hb)⟩
    · next hb =>
      obtain ⟨before, after, rfl, hnodup, hnew, ha⟩ := ih h
      have hbnew : b ∉ before := fun hmem => hnew b hmem List.mem_cons_self
      refine ⟨b :: before, after, rfl, List.nodup_cons.2 ⟨hbnew, hnodup⟩, ?_, ?_⟩
      · refine List.forall_mem_cons.2 ⟨fun hmem => hb (List.contains_iff_mem.2 hmem), ?_⟩
        exact fun c hc hmem => hnew c hc (List.mem_cons_of_mem _ hmem)
      · obtain ha | ha := ha
        · obtain rfl | ha := List.mem_cons.1 ha
          · exact .inr List.mem_cons_self
          · exact .inl ha
        · exact .inr (List.mem_cons_of_mem _ ha)

theorem exists_repeats_eq_cons {α : Type} [BEq α] [LawfulBEq α] {l : List α} (h : ¬ l.Nodup) :
    ∃ before a after, l = before ++ a :: after ∧ before.Nodup ∧ a ∈ before ∧
      ∃ rest, repeats l = a :: rest := by
  match hr : repeats l with
  | [] => exact absurd ((repeats_eq_nil_iff l).1 hr) h
  | a :: rest =>
    obtain ⟨before, after, hl, hnodup, -, ha⟩ := exists_go_eq_cons hr
    exact ⟨before, a, after, hl, hnodup, ha.resolve_left List.not_mem_nil, rest, rfl⟩

namespace Declaration
variable {names : List String} {d : Declaration} {ds : List Declaration}

/-! ## unknown dependencies -/

theorem exists_link_eq_error (h : ¬ ∀ n ∈ d.dependencies, n ∈ names) :
    ∃ earlier dep later, d.dependencies = earlier ++ dep :: later ∧ (∀ n ∈ earlier, n ∈ names) ∧
      dep ∉ names ∧ d.link names = .error (.unknownDependency d.name dep) := by
  obtain ⟨earlier, dep, later, hdeps, hearlier, hdep⟩ := exists_first_not h
  have hplaces : d.places names = .error (.unknownDependency d.name dep) := by
    rw [places, hdeps]
    refine mapM_eq_error (fun n hn => ?_) ?_
    · obtain ⟨i, hi⟩ : ∃ i, names.finIdxOf? n = some i := by
        rw [← Option.isSome_iff_exists, List.isSome_finIdxOf?]
        exact List.contains_iff_mem.2 (hearlier n hn)
      rw [hi]
      exact ⟨i, rfl⟩
    · rw [List.finIdxOf?_eq_none_iff.2 hdep]
  refine ⟨earlier, dep, later, hdeps, hearlier, hdep, ?_⟩
  rw [link, hplaces]
  rfl

theorem linkAll_eq_error {before after : List Declaration} {e : LinkError}
    (hbefore : ∀ b ∈ before, ∃ m, b.link names = .ok m) (hd : d.link names = .error e) :
    linkAll names (before ++ d :: after) = .error e := by
  induction before with
  | nil =>
    rw [List.nil_append, linkAll, hd]
    rfl
  | cons b before ih =>
    obtain ⟨⟨m, hm⟩, hrest⟩ := List.forall_mem_cons.1 hbefore
    rw [List.cons_append, linkAll, hm, ih hrest]
    rfl

theorem exists_linkAll_eq_error (hn : names.Nodup)
    (h : ¬ ∀ d ∈ ds, ∀ n ∈ d.dependencies, n ∈ names) :
    ∃ before d after, ds = before ++ d :: after ∧
      (∀ b ∈ before, ∀ n ∈ b.dependencies, n ∈ names) ∧
      ∃ earlier dep later, d.dependencies = earlier ++ dep :: later ∧
        (∀ n ∈ earlier, n ∈ names) ∧ dep ∉ names ∧
        linkAll names ds = .error (.unknownDependency d.name dep) := by
  obtain ⟨before, d, after, rfl, hbefore, hd⟩ := exists_first_not h
  obtain ⟨earlier, dep, later, hdeps, hearlier, hdep, hlink⟩ := exists_link_eq_error hd
  have hlinks : ∀ b ∈ before, ∃ m, b.link names = .ok m := fun b hb =>
    (exists_link_iff_forall_mem hn).2 (hbefore b hb)
  exact ⟨before, d, after, rfl, hbefore, earlier, dep, later, hdeps, hearlier, hdep,
    linkAll_eq_error hlinks hlink⟩

end Declaration

namespace ModuleGraph
variable {g : ModuleGraph} {ds : List Declaration}

/-! ## the graph -/

theorem link_of_repeats {name : String} {rest : List String}
    (h : repeats (ds.map Declaration.name) = name :: rest) :
    link ds = .error (.duplicateModule name) := by
  unfold link
  dsimp only
  split
  · next hr =>
    rw [h] at hr
    rw [(List.cons.inj hr).1]
  · next hr =>
    rw [h] at hr
    cases hr

theorem link_of_linkAll {e : LinkError} (hn : (ds.map Declaration.name).Nodup)
    (h : Declaration.linkAll (ds.map Declaration.name) ds = .error e) : link ds = .error e := by
  have hnone := (repeats_eq_nil_iff _).2 hn
  unfold link
  dsimp only
  split
  · next hr =>
    rw [hnone] at hr
    cases hr
  · rw [h]
    rfl

theorem size_of_link (h : link ds = .ok g) : g.size = ds.length := by
  have hlength := congrArg List.length (declarations_of_link h)
  rwa [List.length_map, List.length_map, ids, List.length_finRange] at hlength

theorem getElem?_of_link (h : link ds = .ok g) (i : Fin g.size) :
    ∃ d, ds[i.val]? = some d ∧ g.declaration i = d.withoutRepeats := by
  have hi : (g.ids.map g.declaration)[i.val]? = some (g.declaration i) := by
    rw [List.getElem?_map, ids, List.getElem?_eq_getElem (by simp)]
    simp
  rw [declarations_of_link h, List.getElem?_map] at hi
  obtain ⟨d, hd, heq⟩ := Option.map_eq_some_iff.1 hi
  exact ⟨d, hd, heq.symm⟩

theorem dependencies_of_link (h : link ds = .ok g) {i : Fin g.size} {d : Declaration}
    (hd : ds[i.val]? = some d) :
    (g.dependencies i).map some = d.dependencies.eraseDups.map g.find? := by
  obtain ⟨d', hd', heq⟩ := getElem?_of_link h i
  cases hd.symm.trans hd'
  have hdeps : (g.dependencies i).map g.name = d.dependencies.eraseDups :=
    congrArg Declaration.dependencies heq
  rw [← hdeps, List.map_map]
  exact List.map_congr_left fun k _ => (g.find?_name k).symm

theorem find?_of_link (h : link ds = .ok g) (name : String) (i : Fin g.size) :
    g.find? name = some i ↔ ds[i.val]?.map Declaration.name = some name := by
  obtain ⟨d, hd, heq⟩ := getElem?_of_link h i
  have hname : g.name i = d.name := congrArg Declaration.name heq
  rw [g.find?_eq_some_iff, hname, hd, Option.map_some, Option.some.injEq]

/-- **What linking answers.** A name that is declared again is an error, whatever the dependencies
are, and the first declaration that does so is named. Else a dependency that nobody declares is an
error, and the first one of the first module that has one is named. Else there is a graph with all
modules as they were declared and in that order. Each is found under its name and no other is, and
its dependencies are those that were declared, each at its first place. -/
theorem link_outcome (ds : List Declaration) :
    (¬ (ds.map Declaration.name).Nodup →
      ∃ before d after, ds = before ++ d :: after ∧ (before.map Declaration.name).Nodup ∧
        d.name ∈ before.map Declaration.name ∧ link ds = .error (.duplicateModule d.name)) ∧
    ((ds.map Declaration.name).Nodup →
      (¬ ∀ d ∈ ds, ∀ n ∈ d.dependencies, n ∈ ds.map Declaration.name) →
      ∃ before d after, ds = before ++ d :: after ∧
        (∀ b ∈ before, ∀ n ∈ b.dependencies, n ∈ ds.map Declaration.name) ∧
        ∃ earlier dep later, d.dependencies = earlier ++ dep :: later ∧
          (∀ n ∈ earlier, n ∈ ds.map Declaration.name) ∧ dep ∉ ds.map Declaration.name ∧
          link ds = .error (.unknownDependency d.name dep)) ∧
    ((ds.map Declaration.name).Nodup →
      (∀ d ∈ ds, ∀ n ∈ d.dependencies, n ∈ ds.map Declaration.name) →
      ∃ g, link ds = .ok g ∧ g.size = ds.length ∧
        (g.ids.map fun i => ((g.get i).name, (g.get i).source, (g.get i).resources,
          (g.get i).flags)) = ds.map (fun d => (d.name, d.source, d.resources, d.flags)) ∧
        (∀ name i, g.find? name = some i ↔ ds[i.val]?.map Declaration.name = some name) ∧
        (∀ i, g.find? (g.name i) = some i) ∧
        ∀ i : Fin g.size, ∃ d, ds[i.val]? = some d ∧
          (g.dependencies i).map some = d.dependencies.eraseDups.map g.find? ∧
          (g.dependencies i).Nodup ∧ ∀ k ∈ g.dependencies i, k.val < ds.length) := by
  refine ⟨fun hn => ?_, fun hn hunknown => ?_, fun hn hknown => ?_⟩
  · obtain ⟨before, name, after, hsplit, hnodup, hmem, rest, hrepeats⟩ := exists_repeats_eq_cons hn
    obtain ⟨before', after', rfl, rfl, hafter⟩ := List.map_eq_append_iff.1 hsplit
    obtain ⟨d, after'', rfl, rfl, -⟩ := List.map_eq_cons_iff.1 hafter
    exact ⟨before', d, after'', rfl, hnodup, hmem, link_of_repeats hrepeats⟩
  · obtain ⟨before, d, after, hsplit, hbefore, earlier, dep, later, hdeps, hearlier, hdep, hlink⟩ :=
      Declaration.exists_linkAll_eq_error hn hunknown
    exact ⟨before, d, after, hsplit, hbefore, earlier, dep, later, hdeps, hearlier, hdep,
      link_of_linkAll hn hlink⟩
  · obtain ⟨g, hg⟩ := exists_link_iff.2 ⟨hn, hknown⟩
    refine ⟨g, hg, size_of_link hg, ?_, find?_of_link hg, g.find?_name, fun i => ?_⟩
    · have hmap := congrArg (List.map fun d : Declaration =>
        (d.name, d.source, d.resources, d.flags)) (declarations_of_link hg)
      rw [List.map_map, List.map_map] at hmap
      exact hmap
    · obtain ⟨d, hd, -⟩ := getElem?_of_link hg i
      refine ⟨d, hd, dependencies_of_link hg hd, g.dependencies_nodup i, fun k _ => ?_⟩
      exact size_of_link hg ▸ k.isLt

end ModuleGraph

end ServiceBoundary
