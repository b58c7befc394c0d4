import Mathlib
import ServiceBoundary.ModuleGraph.Link
import ServiceBoundary.Proofs.Results

/-!
# What linking keeps

A graph can be written down again, module by module, with names in place of numbers. Linking keeps
all that was declared, in the declared order, but for dependencies that are listed again.

* `ModuleGraph.declaration`   a module, written down;
* `declarations_of_link`      the graph of some declarations, written down, is these declarations
  with each dependency listed once;
* `exists_link_iff`           there is a graph if and only if no name is declared twice and every
  dependency is declared.
-/

namespace ServiceBoundary

theorem eraseDups_map_of_injective {α β : Type} [BEq α] [LawfulBEq α] [BEq β] [LawfulBEq β]
    {f : α → β} (hf : Function.Injective f) (l : List α) :
    (l.map f).eraseDups = l.eraseDups.map f := by
  -- the tail is filtered before it is treated, so the induction is on the length
  induction h : l.length using Nat.strongRecOn generalizing l with
  | _ n ih =>
    cases l with
    | nil => rfl
    | cons a l =>
      have hpred : ((fun b => !b == f a) ∘ f) = fun b => !b == a := by
        funext b
        rw [Function.comp_apply, hf.beq_eq]
      have hlen : (l.filter fun b => !b == a).length < n := by
        have := List.length_filter_le (fun b => !b == a) l
        rw [List.length_cons] at h
        omega
      rw [List.map_cons, List.eraseDups_cons, List.eraseDups_cons, List.map_cons, List.filter_map,
        hpred, ih _ hlen _ rfl]

namespace Declaration

/-- the declaration with each dependency listed once, at its first place -/
def withoutRepeats (d : Declaration) : Declaration :=
  { d with dependencies := d.dependencies.eraseDups }

end Declaration

/-- a module, written down -/
def Module.declaration {n : Nat} (nameOf : Fin n → String) (m : Module n) : Declaration where
  name := m.name
  source := m.source
  resources := m.resources
  dependencies := m.dependencies.map nameOf
  flags := m.flags

namespace Declaration
variable {names : List String} {d : Declaration} {ds : List Declaration}

/-! ## one declaration -/

theorem places_eq_ok_iff (hn : names.Nodup) {ps : List (Fin names.length)} :
    d.places names = .ok ps ↔ ps.map names.get = d.dependencies := by
  have hidx : ∀ (dep : String) (i : Fin names.length),
      names.finIdxOf? dep = some i ↔ dep = names.get i := by
    intro dep i
    rw [List.finIdxOf?_eq_some_iff]
    refine ⟨fun h => h.1.symm, fun h => ⟨h.symm, fun j hj hjd => ?_⟩⟩
    have hij : j = i := List.nodup_iff_injective_get.1 hn (hjd.trans h)
    exact absurd hij hj.ne
  have look_up : d.places names = .ok ps ↔
      List.Forall₂ (fun dep i => dep = names.get i) d.dependencies ps := by
    rw [places, mapM_eq_ok_iff]
    apply iff_of_eq
    congr 1
    funext dep i
    rw [← hidx]
    cases names.finIdxOf? dep <;> simp
  rw [look_up, ← List.forall₂_map_right_iff, List.forall₂_eq_eq_eq, eq_comm]

theorem declaration_of_link (hn : names.Nodup) {m : { m : Module names.length // m.name = d.name }}
    (h : d.link names = .ok m) : m.val.declaration names.get = d.withoutRepeats := by
  obtain ⟨ps, hps, h⟩ := bind_eq_ok_iff.1 h
  have hdeps : ps.map names.get = d.dependencies := (places_eq_ok_iff hn).1 hps
  obtain rfl := Except.ok.inj h
  have herase := eraseDups_map_of_injective (List.nodup_iff_injective_get.1 hn) ps
  rw [hdeps] at herase
  simp only [Module.declaration, withoutRepeats, herase]

theorem exists_link_iff_forall_mem (hn : names.Nodup) :
    (∃ m, d.link names = .ok m) ↔ ∀ n ∈ d.dependencies, n ∈ names := by
  have hrange : (∃ ps : List (Fin names.length), ps.map names.get = d.dependencies) ↔
      ∀ n ∈ d.dependencies, n ∈ names := by
    have hset : d.dependencies ∈ Set.range (List.map names.get) ↔
        ∀ n ∈ d.dependencies, n ∈ Set.range names.get := by
      rw [Set.range_list_map]
      rfl
    simpa only [Set.mem_range, List.mem_iff_get] using hset
  rw [← hrange]
  simp only [← places_eq_ok_iff hn]
  constructor
  · rintro ⟨m, h⟩
    obtain ⟨ps, hps, -⟩ := bind_eq_ok_iff.1 h
    exact ⟨ps, hps⟩
  · rintro ⟨ps, hps⟩
    exact ⟨_, bind_eq_ok_iff.2 ⟨ps, hps, rfl⟩⟩

/-! ## all declarations -/

theorem declarations_of_linkAll (hn : names.Nodup)
    {ms : { ms : List (Module names.length) // ms.map Module.name = ds.map name }}
    (h : linkAll names ds = .ok ms) :
    ms.val.map (Module.declaration names.get) = ds.map withoutRepeats := by
  induction ds with
  | nil =>
    obtain rfl := Except.ok.inj h
    rfl
  | cons d ds ih =>
    obtain ⟨m, hm, h⟩ := bind_eq_ok_iff.1 h
    obtain ⟨ms', hms, h⟩ := bind_eq_ok_iff.1 h
    obtain rfl := Except.ok.inj h
    rw [List.map_cons, List.map_cons, declaration_of_link hn hm, ih hms]

theorem exists_linkAll_iff (hn : names.Nodup) :
    (∃ ms, linkAll names ds = .ok ms) ↔ ∀ d ∈ ds, ∀ n ∈ d.dependencies, n ∈ names := by
  induction ds with
  | nil => exact ⟨fun _ d hd => absurd hd List.not_mem_nil, fun _ => ⟨_, rfl⟩⟩
  | cons d ds ih =>
    rw [List.forall_mem_cons, ← ih, ← exists_link_iff_forall_mem hn]
    constructor
    · rintro ⟨ms, h⟩
      obtain ⟨m, hm, h⟩ := bind_eq_ok_iff.1 h
      obtain ⟨ms', hms, -⟩ := bind_eq_ok_iff.1 h
      exact ⟨⟨m, hm⟩, ms', hms⟩
    · rintro ⟨⟨m, hm⟩, ms, hms⟩
      exact ⟨_, bind_eq_ok_iff.2 ⟨m, hm, bind_eq_ok_iff.2 ⟨ms, hms, rfl⟩⟩⟩

end Declaration

namespace ModuleGraph
variable {g : ModuleGraph} {ds : List Declaration}

/-! ## the graph -/

/-- a module of the graph, written down -/
def declaration (g : ModuleGraph) (m : Fin g.size) : Declaration :=
  (g.get m).declaration g.name

theorem map_get_ids (g : ModuleGraph) : g.ids.map g.get = g.modules.toList := by
  refine List.ext_getElem (by simp [ids]) fun i hi hi' => ?_
  simp [ids, get]
  rfl

theorem map_declaration_mk {names : List String} (ms : Vector (Module names.length) names.length)
    (hn : (ms.toList.map Module.name).Nodup) (hms : ms.toList.map Module.name = names) :
    (ids ⟨names.length, ms, hn, _, rfl⟩).map (declaration ⟨names.length, ms, hn, _, rfl⟩) =
      ms.toList.map (Module.declaration names.get) := by
  have hget : (List.finRange names.length).map (get ⟨names.length, ms, hn, _, rfl⟩) = ms.toList :=
    map_get_ids ⟨names.length, ms, hn, _, rfl⟩
  have hname : name ⟨names.length, ms, hn, _, rfl⟩ = names.get := by
    have hmap : (List.finRange names.length).map (name ⟨names.length, ms, hn, _, rfl⟩) =
        (List.finRange names.length).map names.get := by
      rw [List.map_get_finRange]
      refine Eq.trans ?_ hms
      rw [← hget, List.map_map]
      rfl
    funext i
    exact List.map_eq_map_iff.1 hmap i (List.mem_finRange i)
  rw [← hget, List.map_map, ← hname]
  rfl

/-- **Linking keeps the declarations**, but for dependencies that are listed again. -/
theorem declarations_of_link (h : link ds = .ok g) :
    g.ids.map g.declaration = ds.map Declaration.withoutRepeats := by
  unfold link at h
  dsimp only at h
  split at h
  · cases h
  · next hr =>
    obtain ⟨ms, hms, h⟩ := bind_eq_ok_iff.1 h
    obtain rfl := Except.ok.inj h
    have hn : (ds.map Declaration.name).Nodup := (repeats_eq_nil_iff _).1 hr
    refine (map_declaration_mk _ _ ms.property).trans ?_
    exact Declaration.declarations_of_linkAll hn hms

theorem exists_link_iff :
    (∃ g, link ds = .ok g) ↔ (ds.map Declaration.name).Nodup ∧
      ∀ d ∈ ds, ∀ n ∈ d.dependencies, n ∈ ds.map Declaration.name := by
  rw [← repeats_eq_nil_iff]
  unfold link
  dsimp only
  split
  · next hr =>
    rw [hr]
    constructor
    · rintro ⟨g, h⟩
      cases h
    · rintro ⟨h, -⟩
      cases h
  · next hr =>
    have hn : (ds.map Declaration.name).Nodup := (repeats_eq_nil_iff _).1 hr
    rw [← Declaration.exists_linkAll_iff hn]
    constructor
    · rintro ⟨g, h⟩
      obtain ⟨ms, hms, -⟩ := bind_eq_ok_iff.1 h
      exact ⟨hr, ms, hms⟩
    · rintro ⟨-, ms, hms⟩
      exact ⟨_, bind_eq_ok_iff.2 ⟨ms, hms, rfl⟩⟩

end ModuleGraph

end ServiceBoundary
