import Mathlib.Data.Finset.Card
import ServiceBoundary.Proofs.Reachability
import ServiceBoundary.Tally.Basic

/-!
# What propagation counts

`Tally.propagate` visits the modules on a stack. Here its two results get names of their own, for
any tally to start from and any stack:

* `Tally.visitAll`   the tally afterwards;
* `Tally.opened`     the modules that were met for the first time, in order.

Nothing is lost between the two: a module is counted once for each of its places on the stack and
once for each opened module that depends on it (`count_visitAll`), it is opened if it was not
counted before and is counted now (`mem_opened_iff`), and what is opened can be said without the
loop (`mem_opened_iff_opens`). The demand for a module is the number of counted modules that depend
on it; `count_add_demand` is the law of the loop in these terms: beyond the demand, a count only
grows with the stack.

`Tally.Turn` is one turn of the loop. A state on the way leads to the same end
(`visitAll_eq_of_turns`), so its counts are no higher than there (`count_le_of_turns`,
`count_bump_le_count_visitAll`).
-/

namespace ServiceBoundary
open Relation

namespace Tally
variable {g : ModuleGraph} {t u : Tally g} {m k : Fin g.size} {stack rest : List (Fin g.size)}

/-! ## one turn after the other -/

/-- the tally when all modules on the stack have been visited -/
def visitAll (t : Tally g) (stack : List (Fin g.size)) : Tally g := (t.propagate stack).1

/-- the modules that are visited for the first time, in order -/
def opened (t : Tally g) (stack : List (Fin g.size)) : List (Fin g.size) := (t.propagate stack).2

@[simp] theorem visitAll_nil : t.visitAll [] = t := by
  rw [visitAll, propagate]

@[simp] theorem opened_nil : t.opened [] = [] := by
  rw [opened, propagate]

theorem visitAll_cons_of_eq_zero (h : t.count m = 0) :
    t.visitAll (m :: stack) = (t.bump m).visitAll (g.dependencies m ++ stack) := by
  rw [visitAll, propagate, if_pos h]
  rfl

theorem visitAll_cons_of_ne_zero (h : t.count m ≠ 0) :
    t.visitAll (m :: stack) = (t.bump m).visitAll stack := by
  rw [visitAll, propagate, if_neg h]
  rfl

theorem opened_cons_of_eq_zero (h : t.count m = 0) :
    t.opened (m :: stack) = m :: (t.bump m).opened (g.dependencies m ++ stack) := by
  rw [opened, propagate, if_pos h]
  rfl

theorem opened_cons_of_ne_zero (h : t.count m ≠ 0) :
    t.opened (m :: stack) = (t.bump m).opened stack := by
  rw [opened, propagate, if_neg h]
  rfl

/-- induction along the turns of the loop -/
@[elab_as_elim]
theorem propagate_induction {motive : Tally g → List (Fin g.size) → Prop}
    (nil : ∀ t, motive t [])
    (first : ∀ t m stack, t.count m = 0 → motive (t.bump m) (g.dependencies m ++ stack) →
      motive t (m :: stack))
    (later : ∀ t m stack, t.count m ≠ 0 → motive (t.bump m) stack → motive t (m :: stack))
    (t : Tally g) (stack : List (Fin g.size)) : motive t stack :=
  propagate.induct motive nil (fun t m stack h _ _ _ ih => first t m stack h ih) later t stack

theorem visitAll_append (t : Tally g) (stack rest : List (Fin g.size)) :
    t.visitAll (stack ++ rest) = (t.visitAll stack).visitAll rest := by
  induction t, stack using propagate_induction with
  | nil t => rw [List.nil_append, visitAll_nil]
  | first t m stack h ih =>
    rw [List.cons_append, visitAll_cons_of_eq_zero h, visitAll_cons_of_eq_zero h,
      ← List.append_assoc, ih]
  | later t m stack h ih =>
    rw [List.cons_append, visitAll_cons_of_ne_zero h, visitAll_cons_of_ne_zero h, ih]

theorem opened_append (t : Tally g) (stack rest : List (Fin g.size)) :
    t.opened (stack ++ rest) = t.opened stack ++ (t.visitAll stack).opened rest := by
  induction t, stack using propagate_induction with
  | nil t => rw [List.nil_append, visitAll_nil, opened_nil, List.nil_append]
  | first t m stack h ih =>
    rw [List.cons_append, opened_cons_of_eq_zero h, opened_cons_of_eq_zero h,
      visitAll_cons_of_eq_zero h, ← List.append_assoc, ih, List.cons_append]
  | later t m stack h ih =>
    rw [List.cons_append, opened_cons_of_ne_zero h, opened_cons_of_ne_zero h,
      visitAll_cons_of_ne_zero h, ih]

theorem visitAll_eq_foldl (t : Tally g) (stack : List (Fin g.size)) :
    t.visitAll stack = stack.foldl visit t := by
  induction stack generalizing t with
  | nil => rw [visitAll_nil, List.foldl_nil]
  | cons m stack ih =>
    rw [← List.singleton_append, visitAll_append, ih]
    rfl

/-! ## counts -/

@[simp] theorem roots_visitAll (t : Tally g) (stack : List (Fin g.size)) :
    (t.visitAll stack).roots = t.roots := by
  induction t, stack using propagate_induction with
  | nil t => rw [visitAll_nil]
  | first t m stack h ih => rw [visitAll_cons_of_eq_zero h, ih, roots_bump]
  | later t m stack h ih => rw [visitAll_cons_of_ne_zero h, ih, roots_bump]

/-- **Each entry of the stack and each opened module counts once.** -/
theorem count_visitAll (t : Tally g) (stack : List (Fin g.size)) (k : Fin g.size) :
    (t.visitAll stack).count k =
      t.count k + stack.count k + (t.opened stack).countP (g.Uses · k) := by
  induction t, stack using propagate_induction with
  | nil t => simp
  | first t m stack h ih =>
    rw [visitAll_cons_of_eq_zero h, opened_cons_of_eq_zero h, ih, count_bump, List.count_append,
      g.count_dependencies, List.countP_cons, List.count_cons]
    simp only [decide_eq_true_eq, beq_iff_eq]
    omega
  | later t m stack h ih =>
    rw [visitAll_cons_of_ne_zero h, opened_cons_of_ne_zero h, ih, count_bump, List.count_cons]
    simp only [beq_iff_eq]
    omega

theorem count_le_count_visitAll (t : Tally g) (stack : List (Fin g.size)) (k : Fin g.size) :
    t.count k ≤ (t.visitAll stack).count k := by
  rw [count_visitAll]
  omega

theorem count_visitAll_ne_zero_of_mem (t : Tally g) (hm : m ∈ stack) :
    (t.visitAll stack).count m ≠ 0 := by
  have := List.count_pos_iff.2 hm
  rw [count_visitAll]
  omega

/-! ## the modules that are opened -/

theorem mem_opened_iff : k ∈ t.opened stack ↔ t.count k = 0 ∧ (t.visitAll stack).count k ≠ 0 := by
  induction t, stack using propagate_induction with
  | nil t => simp
  | first t m stack h ih =>
    rw [opened_cons_of_eq_zero h, visitAll_cons_of_eq_zero h, List.mem_cons, ih, count_bump]
    by_cases hk : m = k
    · subst hk
      have := count_le_count_visitAll (t.bump m) (g.dependencies m ++ stack) m
      rw [count_bump, if_pos rfl] at this
      simp only [h, true_or, true_and, true_iff]
      omega
    · simp [hk, Ne.symm hk]
  | later t m stack h ih =>
    rw [opened_cons_of_ne_zero h, visitAll_cons_of_ne_zero h, ih, count_bump]
    by_cases hk : m = k
    · subst hk
      simp [h]
    · simp [hk]

theorem nodup_opened (t : Tally g) (stack : List (Fin g.size)) : (t.opened stack).Nodup := by
  induction t, stack using propagate_induction with
  | nil t => rw [opened_nil]; exact List.nodup_nil
  | first t m stack h ih =>
    rw [opened_cons_of_eq_zero h]
    refine List.nodup_cons.2 ⟨fun hm => ?_, ih⟩
    have := (mem_opened_iff.1 hm).1
    rw [count_bump, if_pos rfl] at this
    omega
  | later t m stack h ih => rwa [opened_cons_of_ne_zero h]

theorem count_visitAll_ne_zero_iff :
    (t.visitAll stack).count k ≠ 0 ↔ t.count k ≠ 0 ∨ k ∈ t.opened stack := by
  have := count_le_count_visitAll t stack k
  rw [mem_opened_iff]
  omega

/-- the modules that the stack leads to through modules that are not counted yet -/
inductive Opens (t : Tally g) (stack : List (Fin g.size)) : Fin g.size → Prop
  | here {m : Fin g.size} : m ∈ stack → t.count m = 0 → Opens t stack m
  | next {p m : Fin g.size} : Opens t stack p → g.Uses p m → t.count m = 0 → Opens t stack m

theorem Opens.of_bump (hk : (t.bump m).Opens rest k)
    (hrest : ∀ x ∈ rest, t.count x = 0 → t.Opens stack x) : t.Opens stack k := by
  have count_eq_zero : ∀ {x}, (t.bump m).count x = 0 → t.count x = 0 := by
    intro x hx
    rw [count_bump] at hx
    omega
  induction hk with
  | here hx hx0 => exact hrest _ hx (count_eq_zero hx0)
  | next _ hpx hx0 ih => exact ih.next hpx (count_eq_zero hx0)

/-- **What is opened does not depend on the order of the loop.** -/
theorem mem_opened_iff_opens : k ∈ t.opened stack ↔ t.Opens stack k := by
  constructor
  · intro hk
    induction t, stack using propagate_induction with
    | nil t => simp at hk
    | first t m stack h ih =>
      rw [opened_cons_of_eq_zero h] at hk
      rcases List.mem_cons.1 hk with rfl | hk
      · exact Opens.here List.mem_cons_self h
      · refine (ih hk).of_bump fun x hx hx0 => ?_
        rcases List.mem_append.1 hx with hx | hx
        · exact (Opens.here List.mem_cons_self h).next hx hx0
        · exact Opens.here (List.mem_cons_of_mem _ hx) hx0
    | later t m stack h ih =>
      rw [opened_cons_of_ne_zero h] at hk
      exact (ih hk).of_bump fun x hx hx0 => Opens.here (List.mem_cons_of_mem _ hx) hx0
  · intro hk
    induction hk with
    | here hm hm0 => exact mem_opened_iff.2 ⟨hm0, count_visitAll_ne_zero_of_mem t hm⟩
    | @next p m _ hpm hm0 ih =>
      refine mem_opened_iff.2 ⟨hm0, ?_⟩
      have : 0 < (t.opened stack).countP (g.Uses · m) :=
        List.countP_pos_iff.2 ⟨p, ih, by simpa using hpm⟩
      rw [count_visitAll]
      omega

theorem Opens.exists_root (hk : t.Opens stack k) : ∃ r ∈ stack, ReflTransGen g.Uses r k := by
  induction hk with
  | here hm _ => exact ⟨_, hm, ReflTransGen.refl⟩
  | next _ hpm _ ih =>
    obtain ⟨r, hr, hp⟩ := ih
    exact ⟨r, hr, hp.tail hpm⟩

/-- from the empty tally, everything is opened that can be reached -/
theorem opens_empty_iff :
    (∅ : Tally g).Opens stack k ↔ ∃ r ∈ stack, ReflTransGen g.Uses r k := by
  refine ⟨Opens.exists_root, ?_⟩
  rintro ⟨r, hr, hk⟩
  induction hk with
  | refl => exact Opens.here hr (count_empty r)
  | tail _ hpk ih => exact ih.next hpk (count_empty _)

/-! ## demand -/

/-- the number of counted modules that depend on the module -/
def demand (t : Tally g) (m : Fin g.size) : Nat :=
  (Finset.univ.filter fun p => t.count p ≠ 0 ∧ g.Uses p m).card

theorem countP_opened (t : Tally g) (stack : List (Fin g.size)) (k : Fin g.size) :
    (t.opened stack).countP (g.Uses · k) =
      (Finset.univ.filter fun p => p ∈ t.opened stack ∧ g.Uses p k).card := by
  have hn : ((t.opened stack).filter (g.Uses · k)).Nodup := (nodup_opened t stack).filter _
  rw [List.countP_eq_length_filter, ← List.toFinset_card_of_nodup hn]
  congr 1
  ext p
  simp

theorem demand_visitAll (t : Tally g) (stack : List (Fin g.size)) (k : Fin g.size) :
    (t.visitAll stack).demand k = t.demand k + (t.opened stack).countP (g.Uses · k) := by
  rw [countP_opened, demand, demand, ← Finset.card_union_of_disjoint]
  · congr 1
    ext p
    simp only [Finset.mem_filter, Finset.mem_univ, true_and, Finset.mem_union,
      count_visitAll_ne_zero_iff, or_and_right]
  · rw [Finset.disjoint_filter]
    rintro p - ⟨hp, -⟩ ⟨hp', -⟩
    exact hp (mem_opened_iff.1 hp').1

/-- **Beyond the demand, a count only grows with the stack.** -/
theorem count_add_demand (t : Tally g) (stack : List (Fin g.size)) (k : Fin g.size) :
    (t.visitAll stack).count k + t.demand k =
      t.count k + stack.count k + (t.visitAll stack).demand k := by
  rw [count_visitAll, demand_visitAll]
  omega

theorem demand_empty (m : Fin g.size) : (∅ : Tally g).demand m = 0 := by
  simp [demand]

theorem demand_le_size (t : Tally g) (m : Fin g.size) : t.demand m ≤ g.size :=
  (Finset.card_le_univ _).trans_eq (Fintype.card_fin _)

/-! ## states on the way -/

/-- one turn of the loop: a tally and a stack, and what follows them -/
inductive Turn : Tally g × List (Fin g.size) → Tally g × List (Fin g.size) → Prop
  | first {t : Tally g} {m : Fin g.size} {stack : List (Fin g.size)} : t.count m = 0 →
      Turn (t, m :: stack) (t.bump m, g.dependencies m ++ stack)
  | later {t : Tally g} {m : Fin g.size} {stack : List (Fin g.size)} : t.count m ≠ 0 →
      Turn (t, m :: stack) (t.bump m, stack)

theorem turns_visitAll (t : Tally g) (stack : List (Fin g.size)) :
    ReflTransGen Turn (t, stack) (t.visitAll stack, []) := by
  induction t, stack using propagate_induction with
  | nil t => rw [visitAll_nil]
  | first t m stack h ih =>
    rw [visitAll_cons_of_eq_zero h]
    exact ReflTransGen.head (Turn.first h) ih
  | later t m stack h ih =>
    rw [visitAll_cons_of_ne_zero h]
    exact ReflTransGen.head (Turn.later h) ih

theorem visitAll_eq_of_turn {x y : Tally g × List (Fin g.size)} (h : Turn x y) :
    x.1.visitAll x.2 = y.1.visitAll y.2 := by
  cases h with
  | first h => exact visitAll_cons_of_eq_zero h
  | later h => exact visitAll_cons_of_ne_zero h

theorem visitAll_eq_of_turns {x y : Tally g × List (Fin g.size)} (h : ReflTransGen Turn x y) :
    x.1.visitAll x.2 = y.1.visitAll y.2 := by
  induction h with
  | refl => rfl
  | tail _ hturn ih => rw [ih, visitAll_eq_of_turn hturn]

theorem count_le_of_turns (h : ReflTransGen Turn (t, stack) (u, rest)) (k : Fin g.size) :
    u.count k ≤ (t.visitAll stack).count k := by
  have heq : t.visitAll stack = u.visitAll rest := visitAll_eq_of_turns h
  rw [heq]
  exact count_le_count_visitAll u rest k

theorem count_bump_le_count_visitAll (h : ReflTransGen Turn (t, stack) (u, m :: rest)) :
    (u.bump m).count m ≤ (t.visitAll stack).count m := by
  have hturn : ∃ rest', Turn (u, m :: rest) (u.bump m, rest') := by
    by_cases hm : u.count m = 0
    · exact ⟨_, Turn.first hm⟩
    · exact ⟨_, Turn.later hm⟩
  obtain ⟨rest', hturn⟩ := hturn
  exact count_le_of_turns (h.tail hturn) m

end Tally

end ServiceBoundary
