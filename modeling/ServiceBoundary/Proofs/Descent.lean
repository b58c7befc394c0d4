import ServiceBoundary.Proofs.Words
import ServiceBoundary.Tally.Folding

/-!
# A visit as a recursion

The loop of a visit keeps a stack, on which the dependencies of many modules wait side by side. A
visit can be told without it: the count of the module is increased; if it is above one now, this is
all, and else each dependency is visited in the same way, in declared order, before anything else
happens. `Trace.Descends` is this recursion, on the same words of 32 bits and with the same two ways
to go on after an overflow.

What is on the stack below a module waits until the whole call of this module is over. So a stack is
a list of calls, one after the other, and this does not depend on whether they end.

A loop ends if it can be paid for (`Budget`): each place on the stack has its price, and the credit
of a module depends on its count. With checks a count never starts again, so a module pays for its
dependencies once. Without them it pays for them once in `2 ^ 32` visits, and this is enough for
every graph that fits into memory: a list of dependencies takes eight bytes for each of them, so
there are fewer than `2 ^ 61`.

* `Trace.Descends`, `Trace.DescendsAll`   the recursion, for one module and for a list;
* `DescendsAll.exists_of_append`   calls for a list in two parts;
* `ends_iff_descendsAll`    a stack is a list of calls;
* `Budget.exists_ends`      a loop that can be paid for ends;
* `visit_is_a_descent`      the loop of a single visit, and the recursion.
-/

namespace ServiceBoundary

namespace Trace
open ModuleGraph (knot)
variable {g : ModuleGraph} {o : Overflow} {t u : Trace g} {m : Fin g.size}
  {ms stack rest : List (Fin g.size)} {r r' : Outcome g}

/-! ## the recursion -/

mutual

/-- One call: the count is increased. If it is above one now, this is all; else the dependencies are
called, in declared order. -/
inductive Descends (o : Overflow) : Trace g → Fin g.size → Outcome g → Prop
  | broken {t u : Trace g} {m : Fin g.size} :
      t.bump o m = .error u → Descends o t m (.error u)
  | later {t u : Trace g} {m : Fin g.size} :
      t.bump o m = .ok u → 1 < u.counters.count m → Descends o t m (.ok u)
  | first {t u : Trace g} {m : Fin g.size} {r : Outcome g} :
      t.bump o m = .ok u → ¬ 1 < u.counters.count m →
      DescendsAll o (u.expand m) (g.dependencies m) r → Descends o t m r

/-- a call for each module of a list, one after the other -/
inductive DescendsAll (o : Overflow) : Trace g → List (Fin g.size) → Outcome g → Prop
  | done {t : Trace g} : DescendsAll o t [] (.ok t)
  | broken {t u : Trace g} {m : Fin g.size} {ms : List (Fin g.size)} :
      Descends o t m (.error u) → DescendsAll o t (m :: ms) (.error u)
  | next {t u : Trace g} {m : Fin g.size} {ms : List (Fin g.size)} {r : Outcome g} :
      Descends o t m (.ok u) → DescendsAll o u ms r → DescendsAll o t (m :: ms) r

end

theorem descendsAll_singleton_iff : DescendsAll o t [m] r ↔ Descends o t m r := by
  constructor
  · intro h
    cases h with
    | broken h => exact h
    | next h hrest =>
      cases hrest
      exact h
  · intro h
    cases r with
    | error u => exact DescendsAll.broken h
    | ok u => exact DescendsAll.next h DescendsAll.done

/-- an outcome, and what it is in the end: if the program was not broken off, something follows -/
inductive Resumes (next : Trace g → Outcome g → Prop) : Outcome g → Outcome g → Prop
  | broken {u : Trace g} : Resumes next (.error u) (.error u)
  | next {u : Trace g} {r : Outcome g} : next u r → Resumes next (.ok u) r

theorem DescendsAll.exists_of_append (h : DescendsAll o t (ms ++ rest) r') :
    ∃ r, DescendsAll o t ms r ∧ Resumes (DescendsAll o · rest) r r' := by
  induction ms generalizing t with
  | nil => exact ⟨_, DescendsAll.done, Resumes.next h⟩
  | cons m ms ih =>
    cases h with
    | broken hcall => exact ⟨_, DescendsAll.broken hcall, Resumes.broken⟩
    | next hcall h =>
      obtain ⟨r, hms, hrest⟩ := ih h
      exact ⟨r, DescendsAll.next hcall hms, hrest⟩

/-! ## a stack is a list of calls -/

theorem Ends.descendsAll (h : Ends o t stack r) : DescendsAll o t stack r := by
  induction h with
  | done => exact DescendsAll.done
  | broken hbump => exact DescendsAll.broken (Descends.broken hbump)
  | later hbump hlt _ ih => exact DescendsAll.next (Descends.later hbump hlt) ih
  | first hbump hle _ ih =>
    -- the dependencies are the call of the module, and the rest of the stack comes behind it
    obtain ⟨r, hcall, hrest⟩ := ih.exists_of_append
    cases hrest with
    | broken => exact DescendsAll.broken (Descends.first hbump hle hcall)
    | next hrest => exact DescendsAll.next (Descends.first hbump hle hcall) hrest

theorem DescendsAll.ends (h : DescendsAll o t ms r) (hrest : Resumes (Ends o · rest) r r') :
    Ends o t (ms ++ rest) r' := by
  -- each call may stand on any stack, and the loop goes on below it
  refine @DescendsAll.rec g o
    (fun t m r _ => ∀ rest r', Resumes (Ends o · rest) r r' → Ends o t (m :: rest) r')
    (fun t ms r _ => ∀ rest r', Resumes (Ends o · rest) r r' → Ends o t (ms ++ rest) r')
    ?_ ?_ ?_ ?_ ?_ ?_ t ms r h rest r' hrest
  · intro t u m hbump rest r' hrest
    cases hrest
    exact Ends.broken hbump
  · intro t u m hbump hlt rest r' hrest
    cases hrest with
    | next hrest => exact Ends.later hbump hlt hrest
  · intro t u m r hbump hle _ ih rest r' hrest
    exact Ends.first hbump hle (ih _ _ hrest)
  · intro t rest r' hrest
    cases hrest with
    | next hrest => exact hrest
  · intro t u m ms _ ih rest r' hrest
    cases hrest
    exact ih _ _ Resumes.broken
  · intro t u m ms r _ _ ihcall ihrest rest r' hrest
    exact ihcall _ _ (Resumes.next (ihrest _ _ hrest))

/-- **A stack is a list of calls.** From any state the loop ends if and only if the calls end, for
one module on the stack after the other, and then it ends in the same way: with the same counters,
and with the same modules expanded, in the same order. -/
theorem ends_iff_descendsAll : Ends o t stack r ↔ DescendsAll o t stack r := by
  refine ⟨Ends.descendsAll, fun h => ?_⟩
  have hend : Resumes (Ends o · []) r r := by
    cases r with
    | error u => exact Resumes.broken
    | ok u => exact Resumes.next Ends.done
  have hloop := h.ends hend
  rwa [List.append_nil] at hloop

/-! ## where a loop is broken off -/

theorem increment_cases {n n' : UInt32} (h : o.increment n = some n') :
    n'.toNat = n.toNat + 1 ∨ o = .wraps ∧ n.toNat + 1 = 2 ^ 32 ∧ n'.toNat = 0 := by
  have hlt := n.toNat_lt
  have hsucc : (n + 1).toNat = (n.toNat + 1) % 2 ^ 32 := UInt32.toNat_add n 1
  cases o with
  | wraps =>
    obtain rfl := Option.some.inj h
    rw [hsucc]
    by_cases hmax : n.toNat + 1 = 2 ^ 32
    · exact Or.inr ⟨rfl, hmax, by rw [hmax, Nat.mod_self]⟩
    · exact Or.inl (Nat.mod_eq_of_lt (by omega))
  | stops =>
    rw [Overflow.increment] at h
    split at h
    case isTrue => cases h
    case isFalse hne =>
      obtain rfl := Option.some.inj h
      have hmax : n.toNat ≠ 2 ^ 32 - 1 := fun heq => hne (UInt32.toNat_inj.1 heq)
      rw [hsucc]
      exact Or.inl (Nat.mod_eq_of_lt (by omega))

theorem bump_eq_ok (h : t.bump o m = .ok u) :
    ∃ n, o.increment (t.counters.count m) = some n ∧
      u = ⟨t.counters.setCount m n, t.fresh⟩ := by
  rw [bump] at h
  split at h
  case h_1 n hn => exact ⟨n, hn, (Except.ok.inj h).symm⟩
  case h_2 => cases h

theorem bump_eq_error (h : t.bump o m = .error u) :
    o = .stops ∧ u.counters.count m = 0xffffffff := by
  rw [bump] at h
  split at h
  case h_1 => cases h
  case h_2 hnone =>
    obtain rfl := Except.error.inj h
    cases o with
    | wraps => cases hnone
    | stops =>
      rw [Overflow.increment] at hnone
      split at hnone
      case isTrue hmax => exact ⟨rfl, hmax⟩
      case isFalse => cases hnone

/-- only a build with checks is broken off, and only where a count has no successor -/
theorem Ends.exists_count (h : Ends o t stack r) (hr : r = .error u) :
    o = .stops ∧ ∃ k, u.counters.count k = 0xffffffff := by
  induction h with
  | done => cases hr
  | broken hbump =>
    obtain rfl := Except.error.inj hr
    obtain ⟨ho, hmax⟩ := bump_eq_error hbump
    exact ⟨ho, _, hmax⟩
  | later _ _ _ ih => exact ih hr
  | first _ _ _ ih => exact ih hr

/-! ## what a loop costs -/

/-- A price for each place on the stack and a credit for each count of a module, so that every turn
of the loop costs something, in each of the three ways that a count can go. -/
structure Budget (g : ModuleGraph) (o : Overflow) where
  price : Fin g.size → Nat
  credit : Fin g.size → Nat → Nat
  first : ∀ m, credit m 1 + ((g.dependencies m).map price).sum < credit m 0 + price m
  later : ∀ m n, credit m (n + 1 + 1) < credit m (n + 1) + price m
  again : o = .wraps → ∀ m,
    credit m 0 + ((g.dependencies m).map price).sum < credit m (2 ^ 32 - 1) + price m

namespace Budget

/-- what is left to be spent -/
def left (b : Budget g o) (t : Trace g) (stack : List (Fin g.size)) : Nat :=
  (stack.map b.price).sum + ∑ k, b.credit k (t.counters.count k).toNat

theorem credits_setCount (b : Budget g o) (c : Counters g) (m : Fin g.size) (n : UInt32) :
    (∑ k, b.credit k ((c.setCount m n).count k).toNat) + b.credit m (c.count m).toNat =
      (∑ k, b.credit k (c.count k).toNat) + b.credit m n.toNat := by
  have hothers : ∑ k ∈ Finset.univ.erase m, b.credit k ((c.setCount m n).count k).toNat =
      ∑ k ∈ Finset.univ.erase m, b.credit k (c.count k).toNat := by
    refine Finset.sum_congr rfl fun k hk => ?_
    rw [Counters.count_setCount, if_neg (Finset.ne_of_mem_erase hk).symm]
  rw [← Finset.add_sum_erase _ _ (Finset.mem_univ m), hothers, Counters.count_setCount, if_pos rfl,
    ← Finset.add_sum_erase _ (fun k => b.credit k (c.count k).toNat) (Finset.mem_univ m)]
  omega

section
variable (b : Budget g o) (h : t.bump o m = .ok u)
include h

theorem left_later (hm : 1 < u.counters.count m) : b.left u stack < b.left t (m :: stack) := by
  obtain ⟨n, hn, rfl⟩ := bump_eq_ok h
  rw [Counters.count_setCount, if_pos rfl, UInt32.lt_iff_toNat_lt] at hm
  change 1 < n.toNat at hm
  have hcredits := b.credits_setCount t.counters m n
  rw [left, left, List.map_cons, List.sum_cons]
  rcases increment_cases hn with hsucc | ⟨-, -, hzero⟩
  · obtain ⟨k, hk⟩ : ∃ k, (t.counters.count m).toNat = k + 1 := Nat.exists_eq_add_one.2 (by omega)
    have hlater := b.later m k
    rw [hsucc, hk] at hcredits
    dsimp only
    omega
  · omega

theorem left_first (hm : ¬ 1 < u.counters.count m) :
    b.left (u.expand m) (g.dependencies m ++ stack) < b.left t (m :: stack) := by
  obtain ⟨n, hn, rfl⟩ := bump_eq_ok h
  rw [Counters.count_setCount, if_pos rfl, UInt32.lt_iff_toNat_lt] at hm
  change ¬ 1 < n.toNat at hm
  have hcredits := b.credits_setCount t.counters m n
  rw [left, left, List.map_cons, List.sum_cons, List.map_append, List.sum_append, expand]
  rcases increment_cases hn with hsucc | ⟨ho, hmax, hzero⟩
  · have hfirst := b.first m
    have hcount : (t.counters.count m).toNat = 0 := by omega
    rw [hsucc, hcount, Nat.zero_add] at hcredits
    dsimp only
    omega
  · have hagain := b.again ho m
    have hcount : (t.counters.count m).toNat = 2 ^ 32 - 1 := by omega
    rw [hzero, hcount] at hcredits
    dsimp only
    omega

end

/-- **A loop that can be paid for ends.** -/
theorem exists_ends (b : Budget g o) (t : Trace g) (stack : List (Fin g.size)) :
    ∃ r, Ends o t stack r := by
  induction hleft : b.left t stack using Nat.strong_induction_on generalizing t stack with
  | _ left ih =>
    cases stack with
    | nil => exact ⟨_, Ends.done⟩
    | cons m stack =>
      cases hbump : t.bump o m with
      | error u => exact ⟨_, Ends.broken hbump⟩
      | ok u =>
        by_cases hm : 1 < u.counters.count m
        · obtain ⟨r, hr⟩ := ih _ (hleft ▸ b.left_later hbump hm) u stack rfl
          exact ⟨r, Ends.later hbump hm hr⟩
        · obtain ⟨r, hr⟩ := ih _ (hleft ▸ b.left_first hbump hm) _ _ rfl
          exact ⟨r, Ends.first hbump hm hr⟩

theorem sum_map_length_dependencies_le (m : Fin g.size) :
    ((g.dependencies m).map fun d => (g.dependencies d).length).sum ≤ Tally.breadth g := by
  have hbreadth : Tally.breadth g = ∑ d, (g.dependencies d).length := by
    rw [Fin.sum_univ_def, List.sum_eq_foldr, List.foldr_map]
    rfl
  rw [hbreadth, ← List.sum_toFinset _ (g.dependencies_nodup m)]
  exact Finset.sum_le_sum_of_subset (Finset.subset_univ _)

/-- with checks, each place costs one, and a module that is not counted has its dependencies paid -/
def checked (g : ModuleGraph) : Budget g .stops where
  price _ := 1
  credit m n := if n = 0 then (g.dependencies m).length else 0
  first m := by simp
  later m n := by simp
  again h := by cases h

/-- Until a count starts again, its module is visited `2 ^ 32` times, and all but one unit of the
price of each later visit is kept. This pays for the dependencies then, and when the count is zero
the next time. -/
def unchecked (g : ModuleGraph) (h : 8 * Tally.breadth g < 2 ^ 64) : Budget g .wraps where
  price m := 2 ^ 31 + (g.dependencies m).length
  credit m n :=
    if n = 0 then
      ((g.dependencies m).map fun d => 2 ^ 31 + (g.dependencies d).length).sum + 1 -
        (2 ^ 31 + (g.dependencies m).length)
    else
      (n - 1) * (2 ^ 31 + (g.dependencies m).length - 1)
  first m := by
    rw [if_neg Nat.one_ne_zero, if_pos rfl]
    omega
  later m n := by
    rw [if_neg (Nat.succ_ne_zero _), if_neg (Nat.succ_ne_zero _), Nat.add_sub_cancel,
      Nat.add_sub_cancel, Nat.succ_mul]
    omega
  again _ m := by
    have hle := sum_map_length_dependencies_le m
    rw [if_pos rfl, if_neg (by decide), List.sum_map_add, List.map_const', List.sum_replicate,
      smul_eq_mul]
    omega

end Budget

/-! ## a visit -/

/-- **A visit is a descent.** In any state, the loop of a visit ends if and only if the recursion
does, and in the same way: with the same counters, and with the same modules expanded, in the same
order. This holds where a count starts again from zero, and where the program is broken off, with
all that was done by then. They do end, and in one way only: always with checks, and without them if
the dependencies, which take eight bytes each, have addresses of 64 bits. Only a build with checks
is broken off, and only when a count has no successor. If the counts of the visit in numbers fit
into words, it ends with these counts, and has expanded the modules that the visit in numbers
opens. -/
theorem visit_is_a_descent (g : ModuleGraph) (o : Overflow) (t : Trace g) (m : Fin g.size) :
    (∀ r, Ends o t [m] r ↔ Descends o t m r) ∧
    (o = .stops ∨ 8 * Tally.breadth g < 2 ^ 64 → ∃! r, Ends o t [m] r) ∧
    (∀ u, Ends o t [m] (.error u) → o = .stops ∧ ∃ k, u.counters.count k = 0xffffffff) ∧
    ((∀ k, (t.counters.tally.visit m).count k < 2 ^ 32) →
      ∃ u, Ends o t [m] (.ok u) ∧ u.counters.tally = t.counters.tally.visit m ∧
        u.fresh = t.fresh ++ t.counters.tally.opened [m]) := by
  refine ⟨fun r => ends_iff_descendsAll.trans descendsAll_singleton_iff, fun h => ?_,
    fun u h => h.exists_count rfl, fun hfits => ?_⟩
  · have hends : ∃ r, Ends o t [m] r := by
      cases o with
      | stops => exact (Budget.checked g).exists_ends t [m]
      | wraps => exact (Budget.unchecked g (h.resolve_left nofun)).exists_ends t [m]
    obtain ⟨r, hr⟩ := hends
    exact ⟨r, hr, fun r' hr' => hr'.unique hr⟩
  · have hloop : Ends o ⟨t.counters.tally.words, t.fresh⟩ [m] _ := Tally.ends_words hfits
    rw [Tally.words_tally] at hloop
    exact ⟨_, hloop, Tally.tally_words hfits, rfl⟩

/-- only the log is counted, which depends on itself -/
def logged (n : UInt32) (fresh : List (Fin knot.size)) : Trace knot :=
  ⟨⟨#v[0, 0, n, 0, 0], []⟩, fresh⟩

/-- Where the count of the log has no successor, the log is expanded again when its count is zero
and when it is one, or the program is broken off at once. From the empty counters the driver leads
in a circle. -/
theorem descents_of_knot :
    Descends .wraps (logged 0xffffffff []) 2 (.ok (logged 2 [2, 2])) ∧
    Descends .stops (logged 0xffffffff []) 2 (.error (logged 0xffffffff [])) ∧
    (∃! r, Ends (g := knot) .wraps ⟨∅, []⟩ [3] r) ∧
    ∀ o, ∃ u : Trace knot, Descends o ⟨∅, []⟩ 3 (.ok u) ∧
      u.counters.tally.visits = #v[0, 1, 2, 2, 0] ∧ u.fresh = [3, 1, 2] := by
  have hmax : (logged 0xffffffff []).bump .wraps 2 = .ok (logged 0 []) := rfl
  have hzero : (logged 0 [2]).bump .wraps 2 = .ok (logged 1 [2]) := rfl
  have hone : (logged 1 [2, 2]).bump .wraps 2 = .ok (logged 2 [2, 2]) := rfl
  have hwraps : Ends .wraps (logged 0xffffffff []) [2] (.ok (logged 2 [2, 2])) :=
    Ends.first hmax (by decide) <| Ends.first hzero (by decide) <|
      Ends.later hone (by decide) Ends.done
  have hstops : Ends .stops (logged 0xffffffff []) [2] (.error (logged 0xffffffff [])) :=
    Ends.broken rfl
  have hempty : (∅ : Counters knot).tally = ∅ := by
    rw [← Tally.words_empty, Tally.tally_words Tally.fits_empty]
  have hcircle : (∅ : Tally knot).propagate [3] = (⟨#v[0, 1, 2, 2, 0], []⟩, [3, 1, 2]) := by cbv
  refine ⟨((visit_is_a_descent knot .wraps _ 2).1 _).1 hwraps,
    ((visit_is_a_descent knot .stops _ 2).1 _).1 hstops,
    (visit_is_a_descent knot .wraps ⟨∅, []⟩ 3).2.1 (Or.inr (by decide)), fun o => ?_⟩
  obtain ⟨hloop, -, -, hnumbers⟩ := visit_is_a_descent knot o ⟨∅, []⟩ 3
  dsimp only at hnumbers
  rw [hempty, Tally.visit, Tally.opened, hcircle] at hnumbers
  obtain ⟨u, hu, hcounts, hfresh⟩ := hnumbers (by decide)
  exact ⟨u, (hloop _).1 hu, by rw [hcounts], hfresh⟩

end Trace

end ServiceBoundary
