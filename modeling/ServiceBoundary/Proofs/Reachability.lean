import Mathlib.Data.Fintype.Card
import Mathlib.Data.List.Chain
import Mathlib.Logic.Relation
import ServiceBoundary.ModuleGraph.Basic

/-!
# Ways along dependencies

A way is a list of modules in which each one depends on the next.

* `ModuleGraph.Uses`      one module depends on another;
* `ModuleGraph.Needed`    a selection of roots, given by their names, leads to a module;
* `ModuleGraph.IsCycle`   a closed way;
* `IsCycle.exists_user`, `IsCycle.exists_dependency`   every module of a closed way comes behind one
  of its modules and before one of them;
* `exists_isCycle_of_isChain`   a way that is longer than the graph has modules contains a closed
  way.
-/

namespace ServiceBoundary
open Relation

/-! ## chains -/

section
variable {α : Type} {R : α → α → Prop}

theorem exists_rel_of_isChain {a b : α} {l : List α} (h : (a :: l).IsChain R) (hb : b ∈ l) :
    ∃ p ∈ (a :: l).dropLast, R p b := by
  induction l generalizing a with
  | nil => cases hb
  | cons c l ih =>
    obtain ⟨hac, hl⟩ := List.isChain_cons_cons.1 h
    rw [List.dropLast_cons_of_ne_nil (List.cons_ne_nil c l)]
    rcases List.mem_cons.1 hb with rfl | hb
    · exact ⟨a, List.mem_cons_self, hac⟩
    · obtain ⟨p, hp, hpb⟩ := ih hl hb
      exact ⟨p, List.mem_cons_of_mem _ hp, hpb⟩

theorem exists_rel_of_mem_dropLast {a b : α} {l : List α} (h : (a :: l).IsChain R)
    (hb : b ∈ (a :: l).dropLast) : ∃ s ∈ l, R b s := by
  induction l generalizing a with
  | nil => cases hb
  | cons c l ih =>
    obtain ⟨hac, hl⟩ := List.isChain_cons_cons.1 h
    rw [List.dropLast_cons_of_ne_nil (List.cons_ne_nil c l)] at hb
    rcases List.mem_cons.1 hb with rfl | hb
    · exact ⟨c, List.mem_cons_self, hac⟩
    · obtain ⟨s, hs, hbs⟩ := ih hl hb
      exact ⟨s, List.mem_cons_of_mem _ hs, hbs⟩

theorem reflTransGen_of_isChain {a b : α} {l : List α} (h : (a :: l).IsChain R)
    (hb : b ∈ a :: l) : ReflTransGen R a b := by
  induction l generalizing a with
  | nil =>
    rw [List.mem_singleton.1 hb]
  | cons c l ih =>
    obtain ⟨hac, hl⟩ := List.isChain_cons_cons.1 h
    rcases List.mem_cons.1 hb with rfl | hb
    · exact ReflTransGen.refl
    · exact ReflTransGen.head hac (ih hl hb)

theorem exists_repeat_of_not_nodup {l : List α} (h : ¬ l.Nodup) :
    ∃ x s r e, l = s ++ (x :: r ++ [x]) ++ e := by
  induction l with
  | nil => exact absurd List.nodup_nil h
  | cons a l ih =>
    by_cases ha : a ∈ l
    · obtain ⟨r, e, rfl⟩ := List.append_of_mem ha
      exact ⟨a, [], r, e, by simp⟩
    · obtain ⟨x, s, r, e, rfl⟩ := ih fun hl => h (List.nodup_cons.2 ⟨ha, hl⟩)
      exact ⟨x, a :: s, r, e, rfl⟩

end

namespace ModuleGraph

/-! ## dependencies -/

section
variable (g : ModuleGraph)

/-- the first module lists the second one among its dependencies -/
def Uses (m d : Fin g.size) : Prop := d ∈ g.dependencies m

instance : DecidableRel g.Uses := fun m d => inferInstanceAs (Decidable (d ∈ g.dependencies m))

theorem count_dependencies (m d : Fin g.size) :
    (g.dependencies m).count d = if g.Uses m d then 1 else 0 := by
  rw [(g.dependencies_nodup m).count]
  rfl

/-- some root leads to the module, along any number of dependencies -/
def Needed (names : List String) (m : Fin g.size) : Prop :=
  ∃ r, g.name r ∈ names ∧ ReflTransGen g.Uses r m

/-- a closed way: each module depends on the next one, and the last on the first -/
def IsCycle : List (Fin g.size) → Prop
  | [] => False
  | m :: ms => (m :: (ms ++ [m])).IsChain g.Uses

end

variable {g : ModuleGraph} {m d : Fin g.size} {c : List (Fin g.size)}

/-! ## closed ways -/

theorem mem_append_singleton_head {a : Fin g.size} {l : List (Fin g.size)} :
    m ∈ l ++ [a] ↔ m ∈ a :: l := by
  rw [List.mem_append, List.mem_singleton, List.mem_cons, or_comm]

theorem IsCycle.exists_user (h : g.IsCycle c) (hm : m ∈ c) : ∃ p ∈ c, g.Uses p m := by
  cases c with
  | nil => cases hm
  | cons a l =>
    obtain ⟨p, hp, hpm⟩ := exists_rel_of_isChain h (mem_append_singleton_head.2 hm)
    rw [← List.cons_append, List.dropLast_concat] at hp
    exact ⟨p, hp, hpm⟩

theorem IsCycle.exists_dependency (h : g.IsCycle c) (hm : m ∈ c) : ∃ d ∈ c, g.Uses m d := by
  cases c with
  | nil => cases hm
  | cons a l =>
    have hm' : m ∈ (a :: (l ++ [a])).dropLast := by
      rwa [← List.cons_append, List.dropLast_concat]
    obtain ⟨d, hd, hmd⟩ := exists_rel_of_mem_dropLast h hm'
    exact ⟨d, mem_append_singleton_head.1 hd, hmd⟩

theorem IsCycle.reflTransGen (h : g.IsCycle c) (hm : m ∈ c) (hd : d ∈ c) :
    ReflTransGen g.Uses m d := by
  cases c with
  | nil => cases hm
  | cons a l =>
    have hchain : (a :: (l ++ [a])).IsChain g.Uses := h
    obtain ⟨s, r, hsr⟩ := List.append_of_mem hm
    have hrest : (m :: (r ++ [a])).IsChain g.Uses :=
      hchain.suffix ⟨s, by simp only [← List.cons_append, ← List.append_assoc, hsr]⟩
    have hma : ReflTransGen g.Uses m a := reflTransGen_of_isChain hrest (by simp)
    have had : ReflTransGen g.Uses a d := by
      refine reflTransGen_of_isChain hchain ?_
      rw [← List.cons_append]
      exact List.mem_append_left _ hd
    exact hma.trans had

/-- A chain that is longer than the graph has modules comes back to one of them. The chain may be
of any relation that only holds along dependencies. -/
theorem exists_isCycle_of_isChain {R : Fin g.size → Fin g.size → Prop}
    (hR : ∀ {x y}, R x y → g.Uses x y) {l : List (Fin g.size)} (hl : (m :: l).IsChain R)
    (hsize : g.size < l.length) :
    ∃ c, g.IsCycle c ∧ (∀ x ∈ c, x ∈ l) ∧ ∃ x ∈ c, ReflTransGen R m x := by
  have hn : ¬ l.Nodup := by
    intro hn
    have := hn.length_le_card
    rw [Fintype.card_fin] at this
    omega
  obtain ⟨x, s, r, e, rfl⟩ := exists_repeat_of_not_nodup hn
  have hx : x ∈ m :: (s ++ (x :: r ++ [x]) ++ e) := by simp
  have hc : (x :: r ++ [x]).IsChain R := hl.infix ⟨m :: s, e, by simp⟩
  refine ⟨x :: r, hc.imp fun _ _ => hR, ?_, x, List.mem_cons_self, reflTransGen_of_isChain hl hx⟩
  intro y hy
  exact List.mem_append_left _ (List.mem_append_right _ (List.mem_append_left _ hy))

end ModuleGraph

end ServiceBoundary
