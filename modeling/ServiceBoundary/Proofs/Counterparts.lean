import ServiceBoundary.Proofs.Comparison
import ServiceBoundary.Proofs.Linking

/-!
# Counterparts in another graph

Two graphs may number their modules differently, and each may hold modules that the other one does
not have. What they share is said by names. A module of one graph and one of the other are
counterparts if, written down, they are the same but for the order of their dependencies. The graphs
agree on a selection if all that it leads to in either of them has a counterpart in the other.

Then the users of a module have the same names in both graphs, so it has the same count
(`Agree.count_eq`), and a service has counterparts of the same modules (`Agree.perm_map_group`).
Twins are needed modules that are written down in the same way, the order of the dependencies
included; a walk from one of them meets the twins of what the walk from the other one meets, in the
same order (`Agree.forall₂_group`), so twins have the same component (`Agree.composed_eq`). If all
needed modules have twins, in the same order, both graphs lead to the same list of components
(`Agree.map_composed_eq`).
-/

namespace ServiceBoundary
open Relation

/-! ## lists -/

section
variable {α β γ : Type} {f : α → γ} {f' : β → γ} {l : List α} {l' : List β}

theorem map_eq_map_iff_forall₂ :
    l.map f = l'.map f' ↔ List.Forall₂ (fun a b => f a = f' b) l l' := by
  rw [← List.forall₂_eq_eq_eq, List.forall₂_map_left_iff, List.forall₂_map_right_iff]

/-- lists of the same things, each of them once -/
theorem perm_map_of_nodup (hl : (l.map f).Nodup) (hl' : (l'.map f').Nodup)
    (h : ∀ a ∈ l, ∃ b ∈ l', f a = f' b) (h' : ∀ b ∈ l', ∃ a ∈ l, f a = f' b) :
    (l.map f).Perm (l'.map f') := by
  rw [List.perm_ext_iff_of_nodup hl hl']
  intro c
  rw [List.mem_map, List.mem_map]
  constructor
  · rintro ⟨a, ha, rfl⟩
    obtain ⟨b, hb, hab⟩ := h a ha
    exact ⟨b, hb, hab.symm⟩
  · rintro ⟨b, hb, rfl⟩
    exact h' b hb

end

/-! ## rearranged declarations -/

/-- the same declaration, but for the order of the dependencies and how often each is listed -/
structure Declaration.Rearranged (d d' : Declaration) : Prop where
  name_eq : d.name = d'.name
  source_eq : d.source = d'.source
  resources_eq : d.resources = d'.resources
  flags_eq : d.flags = d'.flags
  mem_dependencies_iff : ∀ n, n ∈ d.dependencies ↔ n ∈ d'.dependencies

namespace Declaration.Rearranged
variable {d d' : Declaration}

theorem refl (d : Declaration) : d.Rearranged d := ⟨rfl, rfl, rfl, rfl, fun _ => Iff.rfl⟩

theorem symm (h : d.Rearranged d') : d'.Rearranged d :=
  ⟨h.name_eq.symm, h.source_eq.symm, h.resources_eq.symm, h.flags_eq.symm,
    fun n => (h.mem_dependencies_iff n).symm⟩

theorem withoutRepeats (h : d.Rearranged d') : d.withoutRepeats.Rearranged d'.withoutRepeats where
  name_eq := h.name_eq
  source_eq := h.source_eq
  resources_eq := h.resources_eq
  flags_eq := h.flags_eq
  mem_dependencies_iff n := by
    simp only [Declaration.withoutRepeats, List.mem_eraseDups]
    exact h.mem_dependencies_iff n

end Declaration.Rearranged

namespace ModuleGraph
variable {g g' : ModuleGraph} {names : List String} {m d : Fin g.size} {m' : Fin g'.size}

/-! ## needed modules -/

theorem needed_of_name_mem (hm : g.name m ∈ names) : g.Needed names m := ⟨m, hm, ReflTransGen.refl⟩

theorem Needed.trans (hm : g.Needed names m) (hd : ReflTransGen g.Uses m d) : g.Needed names d := by
  obtain ⟨r, hr, hrm⟩ := hm
  exact ⟨r, hr, hrm.trans hd⟩

theorem Needed.uses (hm : g.Needed names m) (hd : g.Uses m d) : g.Needed names d :=
  hm.trans (ReflTransGen.single hd)

/-- induction along the ways from the roots -/
@[elab_as_elim]
theorem Needed.induction {motive : (m : Fin g.size) → g.Needed names m → Prop}
    (root : ∀ r (hr : g.name r ∈ names), motive r (needed_of_name_mem hr))
    (next : ∀ p d (hp : g.Needed names p) (hpd : g.Uses p d), motive p hp → motive d (hp.uses hpd))
    (m : Fin g.size) (hm : g.Needed names m) : motive m hm := by
  obtain ⟨r, hr, hrm⟩ := hm
  induction hrm with
  | refl => exact root r hr
  | tail hrp hpd ih => exact next _ _ ⟨r, hr, hrp⟩ hpd ih

/-! ## counterparts -/

/-- one module in two graphs -/
def Counterparts (g g' : ModuleGraph) (m : Fin g.size) (m' : Fin g'.size) : Prop :=
  (g.declaration m).Rearranged (g'.declaration m')

namespace Counterparts

theorem name_eq (h : Counterparts g g' m m') : g.name m = g'.name m' :=
  Declaration.Rearranged.name_eq h

theorem symm (h : Counterparts g g' m m') : Counterparts g' g m' m := Declaration.Rearranged.symm h

theorem exists_uses (h : Counterparts g g' m m') (hd : g.Uses m d) :
    ∃ d', g'.Uses m' d' ∧ g.name d = g'.name d' := by
  have hmem : g.name d ∈ (g.declaration m).dependencies := List.mem_map_of_mem hd
  rw [Declaration.Rearranged.mem_dependencies_iff h] at hmem
  obtain ⟨d', hd', hname⟩ := List.mem_map.1 hmem
  exact ⟨d', hd', hname.symm⟩

end Counterparts

/-- all that the selection leads to in one of the graphs has a counterpart in the other one -/
structure Agree (g g' : ModuleGraph) (names : List String) : Prop where
  exists_right : ∀ m, g.Needed names m → ∃ m', g'.Needed names m' ∧ Counterparts g g' m m'
  exists_left : ∀ m', g'.Needed names m' → ∃ m, g.Needed names m ∧ Counterparts g g' m m'

namespace Agree

theorem symm (h : Agree g g' names) : Agree g' g names where
  exists_right m' hm' := by
    obtain ⟨m, hm, hc⟩ := h.exists_left m' hm'
    exact ⟨m, hm, hc.symm⟩
  exists_left m hm := by
    obtain ⟨m', hm', hc⟩ := h.exists_right m hm
    exact ⟨m', hm', hc.symm⟩

/-- **One direction is enough.** If the roots are in the first graph and all that they lead to has a
counterpart, then nothing else is needed in the second graph: the dependencies of a counterpart are
named as those of the module, and so have counterparts themselves. -/
theorem of_exists_counterpart (hnames : ∀ n ∈ names, ∃ m, g.name m = n)
    (h : ∀ m, g.Needed names m → ∃ m', Counterparts g g' m m') : Agree g g' names := by
  have hname : ∀ m m', g.Needed names m → g.name m = g'.name m' → Counterparts g g' m m' := by
    intro m m' hm hmm
    obtain ⟨k', hk'⟩ := h m hm
    have hkm : k' = m' := g'.name_inj.1 (hk'.name_eq.symm.trans hmm)
    exact hkm ▸ hk'
  have right : ∀ m, g.Needed names m → ∃ m', g'.Needed names m' ∧ g.name m = g'.name m' := by
    intro m hm
    induction m, hm using Needed.induction with
    | root r hr =>
      obtain ⟨r', hr'⟩ := h r (needed_of_name_mem hr)
      exact ⟨r', needed_of_name_mem (hr'.name_eq ▸ hr), hr'.name_eq⟩
    | next p d hp hpd ih =>
      obtain ⟨p', hp', hpp⟩ := ih
      obtain ⟨d', hd', hdd⟩ := (hname p p' hp hpp).exists_uses hpd
      exact ⟨d', hp'.uses hd', hdd⟩
  have left : ∀ m', g'.Needed names m' → ∃ m, g.Needed names m ∧ g.name m = g'.name m' := by
    intro m' hm'
    induction m', hm' using Needed.induction with
    | root r' hr' =>
      obtain ⟨r, hr⟩ := hnames _ hr'
      exact ⟨r, needed_of_name_mem (hr.symm ▸ hr'), hr⟩
    | next p' d' _ hpd ih =>
      obtain ⟨p, hp, hpp⟩ := ih
      obtain ⟨d, hd, hdd⟩ := (hname p p' hp hpp).symm.exists_uses hpd
      exact ⟨d, hp.uses hd, hdd.symm⟩
  constructor
  · intro m hm
    obtain ⟨m', hm', hmm⟩ := right m hm
    exact ⟨m', hm', hname m m' hm hmm⟩
  · intro m' hm'
    obtain ⟨m, hm, hmm⟩ := left m' hm'
    exact ⟨m, hm, hname m m' hm hmm⟩

section
variable (h : Agree g g' names)
include h

theorem counterparts_of_name_eq (hm : g.Needed names m) (hname : g.name m = g'.name m') :
    Counterparts g g' m m' := by
  obtain ⟨k', -, hk'⟩ := h.exists_right m hm
  have hkm : k' = m' := g'.name_inj.1 (hk'.name_eq.symm.trans hname)
  exact hkm ▸ hk'

theorem image_users_subset (hname : g.name m = g'.name m') :
    (g.users names m).image g.name ⊆ (g'.users names m').image g'.name := by
  intro n hn
  obtain ⟨p, hp, rfl⟩ := Finset.mem_image.1 hn
  rw [mem_users] at hp
  obtain ⟨p', hp', hpp⟩ := h.exists_right p hp.1
  obtain ⟨d', hd', hdd⟩ := hpp.exists_uses hp.2
  have hdm : d' = m' := g'.name_inj.1 (hdd.symm.trans hname)
  exact Finset.mem_image.2 ⟨p', mem_users.2 ⟨hp', hdm ▸ hd'⟩, hpp.name_eq.symm⟩

theorem card_users_eq (hname : g.name m = g'.name m') :
    (g.users names m).card = (g'.users names m').card := by
  have himage : (g.users names m).image g.name = (g'.users names m').image g'.name :=
    (h.image_users_subset hname).antisymm (h.symm.image_users_subset hname.symm)
  calc (g.users names m).card
      = ((g.users names m).image g.name).card :=
        (Finset.card_image_of_injective _ g.name_injective).symm
    _ = (g'.users names m').card := by
        rw [himage, Finset.card_image_of_injective _ g'.name_injective]

theorem forall_declared (hnames : ∀ n ∈ names, ∃ m, g.name m = n) :
    ∀ n ∈ names, ∃ m', g'.name m' = n := by
  intro n hn
  obtain ⟨m, rfl⟩ := hnames n hn
  obtain ⟨m', -, hmm⟩ := h.exists_right m (needed_of_name_mem hn)
  exact ⟨m', hmm.name_eq.symm⟩

end

end Agree

/-- a needed module of the first graph, and a module of the second one that is written down in the
same way -/
def Twins (g g' : ModuleGraph) (names : List String) (m : Fin g.size) (m' : Fin g'.size) : Prop :=
  g.Needed names m ∧ g.declaration m = g'.declaration m'

theorem Twins.name_eq (h : Twins g g' names m m') : g.name m = g'.name m' :=
  congrArg Declaration.name h.2

/-- a graph that holds the needed modules of the first one, written down in the same way -/
theorem Agree.of_exists_declaration_eq (hnames : ∀ n ∈ names, ∃ m, g.name m = n)
    (h : ∀ m, g.Needed names m → ∃ m', g.declaration m = g'.declaration m') :
    Agree g g' names := by
  refine Agree.of_exists_counterpart hnames fun m hm => ?_
  obtain ⟨m', hm'⟩ := h m hm
  refine ⟨m', ?_⟩
  rw [Counterparts, hm']
  exact Declaration.Rearranged.refl _

theorem exists_declaration_eq_of_sublist
    (hsub : ((g.ids.filter fun m => g.Needed names m).map g.declaration).Sublist
      (g'.ids.map g'.declaration)) (hm : g.Needed names m) :
    ∃ m', g.declaration m = g'.declaration m' := by
  have hmem : g.declaration m ∈ g'.ids.map g'.declaration :=
    hsub.subset (List.mem_map_of_mem (List.mem_filter.2 ⟨g.mem_ids m, decide_eq_true hm⟩))
  obtain ⟨m', -, hm'⟩ := List.mem_map.1 hmem
  exact ⟨m', hm'.symm⟩

theorem declaration_eq_of_name_eq (h : ∃ k', g.declaration m = g'.declaration k')
    (hname : g.name m = g'.name m') : g.declaration m = g'.declaration m' := by
  obtain ⟨k', hk'⟩ := h
  have hmk : g.name m = g'.name k' := congrArg Declaration.name hk'
  have hkm : k' = m' := g'.name_inj.1 (hmk.symm.trans hname)
  exact hkm ▸ hk'

end ModuleGraph

namespace Tally
open ModuleGraph (Agree Counterparts Twins)
variable {g g' : ModuleGraph} {t : Tally g} {t' : Tally g'} {names : List String}
  {m k a : Fin g.size} {m' a' : Fin g'.size}

/-! ## tallies of two graphs -/

theorem exists_ofRoots (hne : names ≠ []) (hnames : ∀ n ∈ names, ∃ m, g.name m = n) :
    ∃ t, ofRoots g names = .ok t := by
  obtain ⟨ids, hids⟩ := ModuleGraph.exists_findRoots hnames
  exact ⟨_, ofRoots_eq_ok_iff.2 ⟨hne, ids, hids, rfl⟩⟩

theorem role_eq_of_count_eq (h : t.count m = t'.count m') : t.role m = t'.role m' := by
  rw [role, role, h]

/-- **A relation that the next modules keep is kept by walks.** -/
theorem WalkEnds.exists_forall₂ {R : Fin g.size → Fin g'.size → Prop}
    (hR : ∀ m m', R m m' → List.Forall₂ R (t.folds m) (t'.folds m'))
    {stack order : List (Fin g.size)} {stack' : List (Fin g'.size)} (hw : t.WalkEnds stack order)
    (hs : List.Forall₂ R stack stack') :
    ∃ order', t'.WalkEnds stack' order' ∧ List.Forall₂ R order order' := by
  induction hw generalizing stack' with
  | done =>
    rw [List.forall₂_nil_left_iff.1 hs]
    exact ⟨[], WalkEnds.done, List.Forall₂.nil⟩
  | @turn m stack order _ ih =>
    obtain ⟨m', rest', hm, hrest, rfl⟩ := List.forall₂_cons_left_iff.1 hs
    obtain ⟨order', hw', ho⟩ := ih (List.rel_append (hR m m' hm) hrest)
    exact ⟨m' :: order', WalkEnds.turn hw', List.Forall₂.cons hm ho⟩

theorem standalone_sublist_needed (ht : ofRoots g names = .ok t) :
    t.standalone.Sublist (g.ids.filter fun m => g.Needed names m) := by
  refine List.monotone_filter_right _ fun m hm => ?_
  have hmem : m ∈ t.standalone := List.mem_filter.2 ⟨g.mem_ids m, hm⟩
  exact decide_eq_true (needed_of_mem_standalone ht hmem)

theorem nodup_group_ofRoots (ht : ofRoots g names = .ok t) (ha : a ∈ t.standalone) :
    (t.group a).Nodup := by
  obtain ⟨_, -, hs, -, -⟩ := settled_ofRoots ht
  exact (List.nodup_flatMap.1 hs.nodup_allotted).1 a ha

theorem composed_injective (t : Tally g) (policy : FlagPolicy) :
    Function.Injective (t.composed policy) := fun _ _ h =>
  g.name_inj.1 (congrArg Component.name h)

end Tally

namespace ModuleGraph.Agree
open Tally
variable {g g' : ModuleGraph} {t : Tally g} {t' : Tally g'} {names : List String}
  {m d k a : Fin g.size} {m' a' : Fin g'.size}
  (h : Agree g g' names) (ht : ofRoots g names = .ok t) (ht' : ofRoots g' names = .ok t')
include h ht ht'

/-- **A module counts the same in both graphs.** -/
theorem count_eq (hname : g.name m = g'.name m') : t.count m = t'.count m' := by
  rw [count_ofRoots ht, count_ofRoots ht', h.card_users_eq hname, hname]

theorem mem_standalone_iff (hname : g.name a = g'.name a') :
    a ∈ t.standalone ↔ a' ∈ t'.standalone := by
  rw [mem_standalone, mem_standalone, h.count_eq ht ht' hname]

/-! ## the same services -/

theorem exists_standalone_right (ha : a ∈ t.standalone) :
    ∃ a' ∈ t'.standalone, g.name a = g'.name a' := by
  obtain ⟨a', -, haa⟩ := h.exists_right a (needed_of_mem_standalone ht ha)
  exact ⟨a', (h.mem_standalone_iff ht ht' haa.name_eq).1 ha, haa.name_eq⟩

theorem perm_map_standalone {γ : Type} {f : Fin g.size → γ} {f' : Fin g'.size → γ}
    (hf : Function.Injective f) (hf' : Function.Injective f')
    (heq : ∀ a ∈ t.standalone, ∀ a', g.name a = g'.name a' → f a = f' a') :
    (t.standalone.map f).Perm (t'.standalone.map f') := by
  refine perm_map_of_nodup (t.nodup_standalone.map hf) (t'.nodup_standalone.map hf') ?_ ?_
  · intro a ha
    obtain ⟨a', ha', hname⟩ := h.exists_standalone_right ht ht' ha
    exact ⟨a', ha', heq a ha a' hname⟩
  · intro a' ha'
    obtain ⟨a, ha, hname⟩ := h.symm.exists_standalone_right ht' ht ha'
    exact ⟨a, ha, heq a ha a' hname.symm⟩

/-! ## the same modules in a service -/

theorem exists_enters (hm : g.Needed names m) (hname : g.name m = g'.name m') (hd : t.Enters m d) :
    ∃ d', t'.Enters m' d' ∧ g.name d = g'.name d' := by
  obtain ⟨d', hd', hdd⟩ := (h.counterparts_of_name_eq hm hname).exists_uses hd.1
  have hcount : t.count d = t'.count d' := h.count_eq ht ht' hdd
  exact ⟨d', ⟨hd', hcount ▸ hd.2⟩, hdd⟩

theorem exists_reflTransGen_enters (ha : g.Needed names a) (hname : g.name a = g'.name a')
    (hk : ReflTransGen t.Enters a k) :
    ∃ k', ReflTransGen t'.Enters a' k' ∧ g.name k = g'.name k' := by
  induction hk with
  | refl => exact ⟨a', ReflTransGen.refl, hname⟩
  | @tail p d hap hpd ih =>
    obtain ⟨p', hp', hpp⟩ := ih
    have hp : g.Needed names p := ha.trans (reflTransGen_uses hap)
    obtain ⟨d', hd', hdd⟩ := h.exists_enters ht ht' hp hpp hpd
    exact ⟨d', hp'.tail hd', hdd⟩

theorem exists_mem_group (ha : g.Needed names a) (hname : g.name a = g'.name a')
    (hk : k ∈ t.group a) : ∃ k' ∈ t'.group a', Counterparts g g' k k' := by
  have hc : ¬ t.Circles a := not_circles_ofRoots ht ha
  have hak : ReflTransGen t.Enters a k := (mem_group hc).1 hk
  obtain ⟨k', hk', hkk⟩ := h.exists_reflTransGen_enters ht ht' ha hname hak
  obtain ⟨b', hb', hbb⟩ := h.exists_right a ha
  have hba : b' = a' := g'.name_inj.1 (hbb.name_eq.symm.trans hname)
  have hc' : ¬ t'.Circles a' := not_circles_ofRoots ht' (hba ▸ hb')
  exact ⟨k', (mem_group hc').2 hk',
    h.counterparts_of_name_eq (ha.trans (reflTransGen_uses hak)) hkk⟩

/-- what a service has in both graphs, in some order: names and regions -/
theorem perm_map_group (ha : a ∈ t.standalone) (hname : g.name a = g'.name a') :
    ((t.group a).map fun k => (g.name k, (g.get k).resources)).Perm
      ((t'.group a').map fun k => (g'.name k, (g'.get k).resources)) := by
  have ha' : a' ∈ t'.standalone := (h.mem_standalone_iff ht ht' hname).1 ha
  have hinj : Function.Injective fun k => (g.name k, (g.get k).resources) := fun _ _ hkl =>
    g.name_inj.1 (congrArg Prod.fst hkl)
  have hinj' : Function.Injective fun k => (g'.name k, (g'.get k).resources) := fun _ _ hkl =>
    g'.name_inj.1 (congrArg Prod.fst hkl)
  refine perm_map_of_nodup ((nodup_group_ofRoots ht ha).map hinj)
    ((nodup_group_ofRoots ht' ha').map hinj') ?_ ?_
  · intro k hk
    obtain ⟨k', hk', hkk⟩ :=
      h.exists_mem_group ht ht' (needed_of_mem_standalone ht ha) hname hk
    exact ⟨k', hk', Prod.ext hkk.name_eq (Declaration.Rearranged.resources_eq hkk)⟩
  · intro k' hk'
    obtain ⟨k, hk, hkk⟩ :=
      h.symm.exists_mem_group ht' ht (needed_of_mem_standalone ht' ha') hname.symm hk'
    exact ⟨k, hk, (Prod.ext hkk.name_eq (Declaration.Rearranged.resources_eq hkk)).symm⟩

theorem perm_regions_owned {β : Type} {regions : Resources → List β}
    (hjoin : ∀ rs, regions (Resources.join rs) = rs.flatMap regions) (ha : a ∈ t.standalone)
    (hname : g.name a = g'.name a') : (regions (t.owned a)).Perm (regions (t'.owned a')) := by
  have hperm := (h.perm_map_group ht ht' ha hname).map Prod.snd
  rw [List.map_map, List.map_map] at hperm
  rw [owned, owned, hjoin, hjoin]
  exact hperm.flatMap_right regions

/-! ## the same walk -/

section
variable (hsame : ∀ m m', g.Needed names m → g.name m = g'.name m' →
  g.declaration m = g'.declaration m')
include hsame

theorem forall₂_folds (hm : Twins g g' names m m') :
    List.Forall₂ (Twins g g' names) (t.folds m) (t'.folds m') := by
  have hneeded : ∀ d ∈ g.dependencies m, g.Needed names d := fun d hd => hm.1.uses hd
  have hnames : (g.dependencies m).map g.name = (g'.dependencies m').map g'.name :=
    congrArg Declaration.dependencies hm.2
  have hdeps : List.Forall₂ (Twins g g' names) (g.dependencies m) (g'.dependencies m') :=
    ((List.forall₂_and_left _ _).2 ⟨hneeded, map_eq_map_iff_forall₂.1 hnames⟩).imp
      fun d d' hd => ⟨hd.1, hsame d d' hd.1 hd.2⟩
  refine List.rel_filter (fun d d' hd => ?_) hdeps
  simp only [isStandalone, h.count_eq ht ht' hd.name_eq]

/-- the walk from a twin meets the twins of what the walk from the other twin meets -/
theorem forall₂_group (ha : Twins g g' names a a') :
    List.Forall₂ (Twins g g' names) (t.group a) (t'.group a') := by
  have hw := walkEnds_group (not_circles_ofRoots ht ha.1)
  obtain ⟨order', hw', ho⟩ := hw.exists_forall₂ (fun m m' => h.forall₂_folds ht ht' hsame)
    (List.Forall₂.cons ha List.Forall₂.nil)
  rw [(walkEnds_group (not_circles_of_walkEnds hw')).unique hw']
  exact ho

theorem owned_eq (ha : Twins g g' names a a') : t.owned a = t'.owned a' := by
  have hgroup := h.forall₂_group ht ht' hsame ha
  have hmap : ((t.group a).map fun k => (g.get k).resources) =
      (t'.group a').map fun k => (g'.get k).resources :=
    map_eq_map_iff_forall₂.2 (hgroup.imp fun k k' hk => congrArg Declaration.resources hk.2)
  rw [owned, owned, hmap]

theorem ownFlags_eq (ha : Twins g g' names a a') (policy : FlagPolicy) :
    t.ownFlags policy a = t'.ownFlags policy a' := by
  cases policy with
  | «local» => exact congrArg Declaration.flags ha.2
  | transitive =>
    have hgroup := h.forall₂_group ht ht' hsame ha
    have hmap : ((t.group a).map fun k => (g.get k).flags) =
        (t'.group a').map fun k => (g'.get k).flags :=
      map_eq_map_iff_forall₂.2 (hgroup.imp fun k k' hk => congrArg Declaration.flags hk.2)
    simp only [ownFlags, List.flatMap_def, hmap]

/-- **Twins have the same component.** -/
theorem composed_eq (ha : Twins g g' names a a') (policy : FlagPolicy) :
    t.composed policy a = t'.composed policy a' := by
  have hsource : (g.get a).source = (g'.get a').source := congrArg Declaration.source ha.2
  rw [composed, composed, ha.name_eq, hsource, h.owned_eq ht ht' hsame ha,
    h.ownFlags_eq ht ht' hsame ha]

theorem map_name_group (ha : Twins g g' names a a') :
    (t.group a).map g.name = (t'.group a').map g'.name :=
  map_eq_map_iff_forall₂.2 ((h.forall₂_group ht ht' hsame ha).imp fun _ _ hk => hk.name_eq)

theorem perm_map_composed (policy : FlagPolicy) :
    (t.standalone.map (t.composed policy)).Perm (t'.standalone.map (t'.composed policy)) := by
  refine h.perm_map_standalone ht ht' (composed_injective t policy)
    (composed_injective t' policy) fun a ha a' hname => ?_
  have hneeded : g.Needed names a := needed_of_mem_standalone ht ha
  exact h.composed_eq ht ht' hsame ⟨hneeded, hsame a a' hneeded hname⟩ policy

end

/-! ## the same order -/

/-- if the needed modules of the first graph come in the same order in the second one, then so do
the services -/
theorem forall₂_standalone
    (hsub : ((g.ids.filter fun m => g.Needed names m).map g.declaration).Sublist
      (g'.ids.map g'.declaration)) :
    List.Forall₂ (Twins g g' names) t.standalone t'.standalone := by
  obtain ⟨services, hservices, hmap⟩ :=
    List.sublist_map_iff.1 (((standalone_sublist_needed ht).map g.declaration).trans hsub)
  have htwins : List.Forall₂ (Twins g g' names) t.standalone services :=
    (List.forall₂_and_left _ _).2
      ⟨fun a ha => needed_of_mem_standalone ht ha, map_eq_map_iff_forall₂.1 hmap⟩
  -- both lists of services are parts of the list of all modules
  have hnodup : g'.ids.Nodup := List.nodup_finRange g'.size
  have hperm : services.Perm t'.standalone := by
    rw [List.perm_ext_iff_of_nodup (hservices.nodup hnodup) t'.nodup_standalone]
    intro a'
    constructor
    · intro ha'
      have hmem : g'.declaration a' ∈ t.standalone.map g.declaration :=
        hmap ▸ List.mem_map_of_mem ha'
      obtain ⟨a, ha, haa⟩ := List.mem_map.1 hmem
      exact (h.mem_standalone_iff ht ht' (congrArg Declaration.name haa)).1 ha
    · intro ha'
      obtain ⟨a, ha, haa⟩ := h.symm.exists_standalone_right ht' ht ha'
      have hmem : g.declaration a ∈ services.map g'.declaration :=
        hmap ▸ List.mem_map_of_mem ha
      obtain ⟨b', hb', hba⟩ := List.mem_map.1 hmem
      have hname : g'.name b' = g'.name a' := (congrArg Declaration.name hba).trans haa.symm
      exact g'.name_inj.1 hname ▸ hb'
  rwa [(hnodup.perm_iff_eq_of_sublist hservices List.filter_sublist).1 hperm] at htwins

theorem map_composed_eq
    (hsame : ∀ m m', g.Needed names m → g.name m = g'.name m' →
      g.declaration m = g'.declaration m')
    (hsub : ((g.ids.filter fun m => g.Needed names m).map g.declaration).Sublist
      (g'.ids.map g'.declaration)) (policy : FlagPolicy) :
    t.standalone.map (t.composed policy) = t'.standalone.map (t'.composed policy) :=
  map_eq_map_iff_forall₂.2 ((h.forall₂_standalone ht ht' hsub).imp
    fun _ _ ha => h.composed_eq ht ht' hsame ha policy)

end ModuleGraph.Agree

end ServiceBoundary
