import ServiceBoundary.Proofs.Propagation
import ServiceBoundary.Tally.Folding

/-!
# The walk that folds modules

The walk starts with one module on its stack. Each turn takes the top module, appends it to the
order, and puts the dependencies that are no services in its place. It ends if the stack gets empty;
nothing else stops it. `Tally.WalkEnds` says just this, for any stack, with no bound on the length
of a path; `Tally.walk` computes it with such a bound.

* `WalkEnds.count_eq`     a walk meets a module once for each place on the stack and once for each
  time that it meets a module which enters it;
* `WalkEnds.mem_iff`      it meets what can be entered from the stack;
* `members?_eq_some_iff`  the bound of `Tally.members?` changes nothing;
* `exists_walkEnds_iff`   the walk from a module ends if and only if no circle of modules that are
  no services can be entered from it.
-/

namespace ServiceBoundary
open Relation

namespace Tally
variable {g : ModuleGraph} {t : Tally g} {m d k : Fin g.size}
  {stack rest order order' : List (Fin g.size)}

/-! ## entering a dependency -/

/-- the walk goes on from the first module to the second one -/
def Enters (t : Tally g) (m d : Fin g.size) : Prop := g.Uses m d ∧ t.count d < 2

instance (t : Tally g) : DecidableRel t.Enters := fun m d =>
  inferInstanceAs (Decidable (g.Uses m d ∧ t.count d < 2))

theorem reflTransGen_uses (h : ReflTransGen t.Enters m d) : ReflTransGen g.Uses m d :=
  ReflTransGen.mono (fun _ _ he => he.1) m d h

@[simp] theorem mem_folds : d ∈ t.folds m ↔ t.Enters m d := by
  simp only [folds, List.mem_filter, isStandalone, Bool.not_eq_true', decide_eq_false_iff_not,
    Nat.not_lt, Enters, ModuleGraph.Uses, Nat.lt_succ_iff]

theorem count_folds (t : Tally g) (m d : Fin g.size) :
    (t.folds m).count d = if t.Enters m d then 1 else 0 := by
  have hn : (t.folds m).Nodup := (g.dependencies_nodup m).filter _
  rw [hn.count]
  simp only [mem_folds]

/-- a circle of modules that are no services can be entered from the module -/
def Circles (t : Tally g) (m : Fin g.size) : Prop :=
  ∃ c, g.IsCycle c ∧ (∀ x ∈ c, t.count x < 2) ∧ ∃ x ∈ c, ReflTransGen t.Enters m x

/-! ## walks that end -/

/-- the walk over the stack ends and has met the modules of the order -/
inductive WalkEnds (t : Tally g) : List (Fin g.size) → List (Fin g.size) → Prop
  | done : WalkEnds t [] []
  | turn {m : Fin g.size} {stack order : List (Fin g.size)} :
      WalkEnds t (t.folds m ++ stack) order → WalkEnds t (m :: stack) (m :: order)

namespace WalkEnds

theorem unique (h : t.WalkEnds stack order) (h' : t.WalkEnds stack order') : order = order' := by
  induction h generalizing order' with
  | done =>
    cases h'
    rfl
  | turn _ ih =>
    cases h' with
    | turn h' => rw [ih h']

theorem count_eq (h : t.WalkEnds stack order) (k : Fin g.size) :
    order.count k = stack.count k + order.countP (t.Enters · k) := by
  induction h with
  | done => rfl
  | @turn m stack order _ ih =>
    rw [List.count_cons, ih, List.count_append, count_folds, List.countP_cons, List.count_cons]
    simp only [decide_eq_true_eq]
    omega

theorem mem_of_mem_stack (h : t.WalkEnds stack order) (hm : m ∈ stack) : m ∈ order := by
  have := List.count_pos_iff.2 hm
  have := h.count_eq m
  exact List.count_pos_iff.1 (by omega)

theorem mem_of_enters (h : t.WalkEnds stack order) (hm : m ∈ order) (hd : t.Enters m d) :
    d ∈ order := by
  have : 0 < order.countP (t.Enters · d) := List.countP_pos_iff.2 ⟨m, hm, by simpa using hd⟩
  have := h.count_eq d
  exact List.count_pos_iff.1 (by omega)

theorem mem_iff (h : t.WalkEnds stack order) :
    k ∈ order ↔ ∃ m ∈ stack, ReflTransGen t.Enters m k := by
  constructor
  · intro hk
    induction h with
    | done => cases hk
    | @turn m stack order _ ih =>
      rcases List.mem_cons.1 hk with rfl | hk
      · exact ⟨k, List.mem_cons_self, ReflTransGen.refl⟩
      · obtain ⟨x, hx, hxk⟩ := ih hk
        rcases List.mem_append.1 hx with hx | hx
        · exact ⟨m, List.mem_cons_self, ReflTransGen.head (mem_folds.1 hx) hxk⟩
        · exact ⟨x, List.mem_cons_of_mem _ hx, hxk⟩
  · rintro ⟨m, hm, hk⟩
    induction hk with
    | refl => exact h.mem_of_mem_stack hm
    | tail _ hd ih => exact h.mem_of_enters ih hd

/-- every path from the stack comes to an end: the walk takes one turn for each of its modules -/
theorem acc (h : t.WalkEnds stack order) (hm : m ∈ stack) : Acc (fun d m => t.Enters m d) m := by
  induction h generalizing m with
  | done => cases hm
  | turn _ ih =>
    rcases List.mem_cons.1 hm with rfl | hm
    · exact Acc.intro _ fun d hd => ih (List.mem_append_left _ (mem_folds.2 hd))
    · exact ih (List.mem_append_right _ hm)

end WalkEnds

theorem not_mem_cycle_of_acc {c : List (Fin g.size)} (hc : g.IsCycle c)
    (hlow : ∀ x ∈ c, t.count x < 2) (hm : Acc (fun d m => t.Enters m d) m) : m ∉ c := by
  induction hm with
  | intro m _ ih =>
    intro hmc
    obtain ⟨d, hd, hmd⟩ := hc.exists_dependency hmc
    exact ih d ⟨hmd, hlow d hd⟩ hd

theorem not_circles_of_walkEnds (h : t.WalkEnds [m] order) : ¬ t.Circles m := by
  rintro ⟨c, hc, hlow, x, hx, hmx⟩
  have hacc : Acc (fun d m => t.Enters m d) x := by
    clear hx
    induction hmx with
    | refl => exact h.acc List.mem_cons_self
    | tail _ hstep ih => exact ih.inv hstep
  exact not_mem_cycle_of_acc hc hlow hacc hx

/-! ## the bound of the walk -/

theorem walk_succ_cons (t : Tally g) (n : Nat) (m : Fin g.size) (stack : List (Nat × Fin g.size)) :
    t.walk ((n + 1, m) :: stack) =
      (t.walk ((t.folds m).map (Prod.mk n) ++ stack)).map (m :: ·) := by
  rw [walk]
  cases t.walk ((t.folds m).map (Prod.mk n) ++ stack) <;> rfl

/-- induction along the turns of the walk with a bound on each path -/
@[elab_as_elim]
theorem walk_induction {t : Tally g} {motive : List (Nat × Fin g.size) → Prop}
    (nil : motive [])
    (stuck : ∀ m stack, motive ((0, m) :: stack))
    (turn : ∀ n m stack, motive ((t.folds m).map (Prod.mk n) ++ stack) →
      motive ((n + 1, m) :: stack))
    (stack : List (Nat × Fin g.size)) : motive stack :=
  walk.induct t motive nil stuck (fun n m stack _ _ ih => turn n m stack ih)
    (fun n m stack _ ih => turn n m stack ih) stack

theorem walkEnds_of_walk {stack : List (Nat × Fin g.size)} (h : t.walk stack = some order) :
    t.WalkEnds (stack.map Prod.snd) order := by
  induction stack using walk_induction (t := t) generalizing order with
  | nil =>
    rw [walk] at h
    rw [← Option.some.inj h]
    exact WalkEnds.done
  | stuck m stack =>
    rw [walk] at h
    cases h
  | turn n m stack ih =>
    rw [walk_succ_cons] at h
    obtain ⟨order', h', rfl⟩ := Option.map_eq_some_iff.1 h
    have := ih h'
    rw [List.map_append, List.map_map] at this
    refine WalkEnds.turn ?_
    convert this
    exact (List.map_id _).symm

theorem exists_isChain_of_walk_eq_none {stack : List (Nat × Fin g.size)}
    (h : t.walk stack = none) :
    ∃ e ∈ stack, ∃ l : List (Fin g.size), l.length = e.1 ∧ (e.2 :: l).IsChain t.Enters := by
  induction stack using walk_induction (t := t) with
  | nil =>
    rw [walk] at h
    cases h
  | stuck m stack => exact ⟨(0, m), List.mem_cons_self, [], rfl, List.isChain_singleton m⟩
  | turn n m stack ih =>
    rw [walk_succ_cons, Option.map_eq_none_iff] at h
    obtain ⟨e, he, l, hlen, hl⟩ := ih h
    rcases List.mem_append.1 he with he | he
    · obtain ⟨d, hd, rfl⟩ := List.mem_map.1 he
      exact ⟨(n + 1, m), List.mem_cons_self, d :: l, by simpa using hlen,
        List.isChain_cons_cons.2 ⟨mem_folds.1 hd, hl⟩⟩
    · exact ⟨e, List.mem_cons_of_mem _ he, l, hlen, hl⟩

theorem circles_of_members?_eq_none (h : t.members? m = none) : t.Circles m := by
  obtain ⟨e, he, l, hlen, hl⟩ := exists_isChain_of_walk_eq_none h
  rw [List.mem_singleton.1 he] at hlen hl
  obtain ⟨c, hc, hsub, hx⟩ :=
    ModuleGraph.exists_isCycle_of_isChain (fun h => h.1) hl (by simp only at hlen; omega)
  refine ⟨c, hc, fun x hxc => ?_, hx⟩
  obtain ⟨p, -, hp⟩ := exists_rel_of_isChain hl (hsub x hxc)
  exact hp.2

/-- **The bound on the length of paths changes nothing.** -/
theorem members?_eq_some_iff : t.members? m = some order ↔ t.WalkEnds [m] order := by
  constructor
  · exact walkEnds_of_walk
  · intro h
    cases hm : t.members? m with
    | none => exact absurd (circles_of_members?_eq_none hm) (not_circles_of_walkEnds h)
    | some order' => rw [(walkEnds_of_walk hm : t.WalkEnds [m] order').unique h]

/-- **The walk ends if and only if no circle can be entered.** -/
theorem exists_walkEnds_iff : (∃ order, t.WalkEnds [m] order) ↔ ¬ t.Circles m := by
  constructor
  · rintro ⟨order, h⟩
    exact not_circles_of_walkEnds h
  · intro h
    cases hm : t.members? m with
    | none => exact absurd (circles_of_members?_eq_none hm) h
    | some order => exact ⟨order, members?_eq_some_iff.1 hm⟩

/-! ## the modules of a service -/

/-- the module with all that is folded into it, in walk order; nothing if the walk has no end -/
def group (t : Tally g) (m : Fin g.size) : List (Fin g.size) := (t.members? m).getD []

section
variable (h : ¬ t.Circles m)
include h

theorem walkEnds_group : t.WalkEnds [m] (t.group m) := by
  obtain ⟨order, horder⟩ := exists_walkEnds_iff.2 h
  rw [group, members?_eq_some_iff.2 horder]
  exact horder

theorem members_eq : t.members m = .ok (t.group m) := by
  rw [members, members?_eq_some_iff.2 (walkEnds_group h)]

theorem folded_eq : t.folded m = .ok (t.group m).tail := by
  rw [folded, members_eq h]
  rfl

theorem group_eq_cons : t.group m = m :: (t.group m).tail := by
  have hw := walkEnds_group h
  generalize t.group m = order at hw
  cases hw
  rfl

theorem mem_group : k ∈ t.group m ↔ ReflTransGen t.Enters m k := by
  rw [(walkEnds_group h).mem_iff]
  simp

theorem mem_tail_group (hk : ReflTransGen t.Enters m k) (hne : k ≠ m) : k ∈ (t.group m).tail := by
  have hmem := (mem_group h).2 hk
  rw [group_eq_cons h] at hmem
  exact (List.mem_cons.1 hmem).resolve_left hne

theorem count_group (k : Fin g.size) :
    (t.group m).count k = (if m = k then 1 else 0) + (t.group m).countP (t.Enters · k) := by
  rw [(walkEnds_group h).count_eq k, List.count_singleton]
  simp only [beq_iff_eq]

end

end Tally

end ServiceBoundary
