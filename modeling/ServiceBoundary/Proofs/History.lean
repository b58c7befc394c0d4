import ServiceBoundary.Proofs.Promotion

/-!
# Sessions with a history

A session holds any number of tallies over one graph. It starts new ones, empty or of a selection,
copies them, and visits, promotes and resets each of them, in any order; promotions may come before
visits, and then a module is counted whose dependencies were never visited. Beside each tally the
session writes down what was asked of it since it was new.

The invariant needs one thing more, which neither the tally nor the record tells: the modules that
were expanded, that is, visited when they were not counted yet. Each of them adds one to the counts
of its dependencies, and does so once only, since it stays counted. So beyond the visits that were
asked for, a count has at most one for each module of the graph, and what a promotion adds.

* `Recorded`, `Operation`, `session`   tallies with their records, and what a session does;
* `Consistent`       the invariant, with the expanded modules;
* `Consistent.visitAll`, `Consistent.promote`   each operation keeps it;
* `exists_consistent_of_mem_session`   so it holds in every session;
* `histories_of_sessions`   what this says of the tallies alone.
-/

namespace ServiceBoundary
open Relation

namespace Tally
open ModuleGraph (knot)
variable {g : ModuleGraph} {t u : Tally g} {m k : Fin g.size} {ms stack rest : List (Fin g.size)}

/-! ## what a session does -/

/-- a tally, and what was asked of it since it was new -/
structure Recorded (g : ModuleGraph) where
  tally : Tally g
  /-- the modules that were visited directly, in order; a selection visits each of its roots -/
  visited : List (Fin g.size)
  /-- the modules that were promoted, in order; a selection promotes each of its roots -/
  promoted : List (Fin g.size)

namespace Recorded

/-- nothing was asked -/
def fresh (g : ModuleGraph) : Recorded g := ⟨∅, [], []⟩

/-- the tally of a selection, if there is one -/
def ofRoots? (g : ModuleGraph) (names : List String) : Option (Recorded g) :=
  match g.findRoots names, ofRoots g names with
  | .ok ids, .ok t => some ⟨t, ids, ids⟩
  | _, _ => none

def visit (m : Fin g.size) (r : Recorded g) : Recorded g :=
  ⟨r.tally.visit m, r.visited ++ [m], r.promoted⟩

def promote (ms : List (Fin g.size)) (r : Recorded g) : Recorded g :=
  ⟨r.tally.promote ms, r.visited, r.promoted ++ ms⟩

/-- forgets everything -/
def reset (r : Recorded g) : Recorded g := ⟨r.tally.reset, [], []⟩

end Recorded

/-- what a session can do; a tally has the number of its place in the session -/
inductive Operation (g : ModuleGraph) where
  /-- one more tally, an empty one -/
  | new
  /-- one more tally, of a selection; nothing happens if there is none -/
  | run (names : List String)
  /-- a direct visit in one of the tallies -/
  | visit (i : Nat) (m : Fin g.size)
  /-- a promotion in one of the tallies -/
  | promote (i : Nat) (ms : List (Fin g.size))
  /-- one of the tallies starts anew -/
  | reset (i : Nat)
  /-- one more tally, a copy of another one -/
  | copy (i : Nat)

/-- the session after one operation more -/
def perform (rs : List (Recorded g)) : Operation g → List (Recorded g)
  | .new => rs ++ [Recorded.fresh g]
  | .run names => rs ++ (Recorded.ofRoots? g names).toList
  | .visit i m => rs.modify i (Recorded.visit m)
  | .promote i ms => rs.modify i (Recorded.promote ms)
  | .reset i => rs.modify i Recorded.reset
  | .copy i => rs ++ rs[i]?.toList

/-- the session of some operations, from none of the tallies on -/
def session (ops : List (Operation g)) : List (Recorded g) := ops.foldl perform []

theorem session_concat (ops : List (Operation g)) (op : Operation g) :
    session (ops ++ [op]) = perform (session ops) op := by
  rw [session, List.foldl_append]
  rfl

/-! ## the invariant -/

/-- what promotions add to a count: two if the module was not counted, and one if it was -/
def raise (expanded : Finset (Fin g.size)) (promoted : List (Fin g.size)) (m : Fin g.size) : Nat :=
  if promoted.contains m then if m ∈ expanded then 1 else 2 else 0

theorem raise_of_mem {expanded : Finset (Fin g.size)} {promoted : List (Fin g.size)}
    (h : m ∈ promoted) : raise expanded promoted m = if m ∈ expanded then 1 else 2 :=
  if_pos (List.contains_iff_mem.2 h)

theorem raise_of_not_mem {expanded : Finset (Fin g.size)} {promoted : List (Fin g.size)}
    (h : m ∉ promoted) : raise expanded promoted m = 0 :=
  if_neg fun hc => h (List.contains_iff_mem.1 hc)

/-- the tally has the roots of its record, and its counts come from the visits of the record, from
the expanded modules and from promotions -/
structure Consistent (r : Recorded g) (expanded : Finset (Fin g.size)) : Prop where
  roots_eq : r.tally.roots = r.promoted.eraseDups
  two_le : ∀ m ∈ r.promoted, 2 ≤ r.tally.count m
  mem_or_mem : ∀ m, r.tally.count m ≠ 0 → m ∈ expanded ∨ m ∈ r.promoted
  count_ne_zero : ∀ p ∈ expanded, r.tally.count p ≠ 0
  count_ne_zero_of_uses : ∀ p ∈ expanded, ∀ d, g.Uses p d → r.tally.count d ≠ 0
  count_le : ∀ m, r.tally.count m ≤
    r.visited.count m + (expanded.filter (g.Uses · m)).card + raise expanded r.promoted m

theorem roots_promote_eraseDups {ps : List (Fin g.size)} (h : t.roots = ps.eraseDups)
    (ms : List (Fin g.size)) : (t.promote ms).roots = (ps ++ ms).eraseDups := by
  induction ms generalizing t ps with
  | nil =>
    rw [List.append_nil]
    exact h
  | cons m ms ih =>
    rw [← List.singleton_append, ← List.append_assoc]
    refine ih (t := t.promoteOne m) ?_
    rw [roots_promoteOne, h, List.eraseDups_append]
    by_cases hm : m ∈ ps
    · rw [if_pos (List.mem_eraseDups.2 hm)]
      simp [List.removeAll, hm]
    · rw [if_neg fun hmem => hm (List.mem_eraseDups.1 hmem)]
      simp [List.removeAll, hm, List.eraseDups_cons]

/-- a module that is visited when it is not counted adds one for each dependency -/
theorem card_filter_union_opened {expanded : Finset (Fin g.size)}
    (h : ∀ p ∈ expanded, t.count p ≠ 0) (stack : List (Fin g.size)) (k : Fin g.size) :
    ((expanded ∪ (t.opened stack).toFinset).filter (g.Uses · k)).card =
      (expanded.filter (g.Uses · k)).card + (t.opened stack).countP (g.Uses · k) := by
  have hopened : (t.opened stack).toFinset.filter (g.Uses · k) =
      Finset.univ.filter fun p => p ∈ t.opened stack ∧ g.Uses p k := by
    ext p
    simp
  have hdisjoint : Disjoint expanded (t.opened stack).toFinset := by
    rw [Finset.disjoint_left]
    intro p hp hmem
    exact h p hp (mem_opened_iff.1 (List.mem_toFinset.1 hmem)).1
  rw [Finset.filter_union, Finset.card_union_of_disjoint (Finset.disjoint_filter_filter hdisjoint),
    countP_opened, hopened]

namespace Consistent
variable {r : Recorded g} {expanded : Finset (Fin g.size)}

theorem fresh : Consistent (Recorded.fresh g) ∅ where
  roots_eq := rfl
  two_le m hm := absurd hm List.not_mem_nil
  mem_or_mem m hm := absurd (count_empty m) hm
  count_ne_zero p hp := absurd hp (Finset.notMem_empty p)
  count_ne_zero_of_uses p hp := absurd hp (Finset.notMem_empty p)
  count_le m := by
    rw [Recorded.fresh, count_empty]
    exact Nat.zero_le _

/-- **Visits expand each module once.** -/
theorem visitAll (h : Consistent r expanded) (stack : List (Fin g.size)) :
    Consistent ⟨r.tally.visitAll stack, r.visited ++ stack, r.promoted⟩
      (expanded ∪ (r.tally.opened stack).toFinset) where
  roots_eq := by
    rw [roots_visitAll]
    exact h.roots_eq
  two_le m hm := (h.two_le m hm).trans (count_le_count_visitAll r.tally stack m)
  mem_or_mem m hm := by
    rw [Finset.mem_union, List.mem_toFinset]
    rcases count_visitAll_ne_zero_iff.1 hm with hm | hm
    · exact (h.mem_or_mem m hm).imp_left Or.inl
    · exact Or.inl (Or.inr hm)
  count_ne_zero p hp := by
    rw [Finset.mem_union, List.mem_toFinset] at hp
    exact count_visitAll_ne_zero_iff.2 (hp.imp_left (h.count_ne_zero p))
  count_ne_zero_of_uses p hp d hd := by
    rw [Finset.mem_union, List.mem_toFinset] at hp
    rcases hp with hp | hp
    · exact count_visitAll_ne_zero_iff.2 (Or.inl (h.count_ne_zero_of_uses p hp d hd))
    · have hpos : 0 < (r.tally.opened stack).countP (g.Uses · d) :=
        List.countP_pos_iff.2 ⟨p, hp, decide_eq_true hd⟩
      rw [count_visitAll]
      omega
  count_le m := by
    -- a promoted module is counted, so it is not expanded by these visits
    have hraise : raise (expanded ∪ (r.tally.opened stack).toFinset) r.promoted m =
        raise expanded r.promoted m := by
      by_cases hm : m ∈ r.promoted
      · have hnot : m ∉ r.tally.opened stack := fun hmem => by
          have := (mem_opened_iff.1 hmem).1
          have := h.two_le m hm
          omega
        rw [raise_of_mem hm, raise_of_mem hm]
        simp [hnot]
      · rw [raise_of_not_mem hm, raise_of_not_mem hm]
    have hle := h.count_le m
    rw [hraise, card_filter_union_opened h.count_ne_zero, count_visitAll, List.count_append]
    omega

/-- **A promotion adds two to a module that is not counted, and one to an expanded module.** -/
theorem promote (h : Consistent r expanded) (ms : List (Fin g.size)) :
    Consistent (r.promote ms) expanded where
  roots_eq := roots_promote_eraseDups h.roots_eq ms
  two_le m hm := by
    change 2 ≤ (r.tally.promote ms).count m
    rw [count_promote]
    rcases List.mem_append.1 hm with hm | hm
    · have := h.two_le m hm
      split <;> omega
    · rw [if_pos hm]
      omega
  mem_or_mem m hm := by
    change (r.tally.promote ms).count m ≠ 0 at hm
    rw [count_promote] at hm
    by_cases hmem : m ∈ ms
    · exact Or.inr (List.mem_append_right _ hmem)
    · rw [if_neg hmem] at hm
      exact (h.mem_or_mem m hm).imp_right (List.mem_append_left ms)
  count_ne_zero p hp := by
    have hne := h.count_ne_zero p hp
    have hle := count_le_count_promote r.tally ms p
    exact fun hzero => hne (Nat.le_zero.1 (hzero ▸ hle))
  count_ne_zero_of_uses p hp d hd := by
    have hne := h.count_ne_zero_of_uses p hp d hd
    have hle := count_le_count_promote r.tally ms d
    exact fun hzero => hne (Nat.le_zero.1 (hzero ▸ hle))
  count_le m := by
    have hle := h.count_le m
    change (r.tally.promote ms).count m ≤ r.visited.count m +
      (expanded.filter (g.Uses · m)).card + raise expanded (r.promoted ++ ms) m
    rw [count_promote]
    by_cases hold : m ∈ r.promoted
    · -- the count is two or more already
      have htwo := h.two_le m hold
      have hraise : raise expanded (r.promoted ++ ms) m = raise expanded r.promoted m := by
        rw [raise_of_mem (List.mem_append_left ms hold), raise_of_mem hold]
      rw [hraise]
      split <;> omega
    · have hzero : raise expanded r.promoted m = 0 := raise_of_not_mem hold
      by_cases hm : m ∈ ms
      · have hraise : raise expanded (r.promoted ++ ms) m = if m ∈ expanded then 1 else 2 :=
          raise_of_mem (List.mem_append_right _ hm)
        rw [if_pos hm, hraise]
        by_cases hexp : m ∈ expanded
        · have := h.count_ne_zero m hexp
          rw [if_pos hexp]
          omega
        · -- neither expanded nor promoted, so not counted
          have hnot : ¬ r.tally.count m ≠ 0 := fun hne => (h.mem_or_mem m hne).elim hexp hold
          rw [if_neg hexp]
          omega
      · rw [if_neg hm]
        omega

/-! ## each operation -/

theorem visit (h : Consistent r expanded) (m : Fin g.size) :
    ∃ expanded', Consistent (r.visit m) expanded' :=
  ⟨_, h.visitAll [m]⟩

theorem reset (r : Recorded g) : Consistent r.reset ∅ := by
  rw [Recorded.reset, reset_eq_empty]
  exact fresh

theorem ofRoots? {names : List String} (h : Recorded.ofRoots? g names = some r) :
    ∃ expanded, Consistent r expanded := by
  unfold Recorded.ofRoots? at h
  split at h
  · next ids t hids ht =>
    obtain rfl := Option.some.inj h
    obtain ⟨-, ids', hids', rfl⟩ := ofRoots_eq_ok_iff.1 ht
    obtain rfl : ids' = ids := by
      rw [ModuleGraph.findRoots_eq_ok_iff, ← hids'] at hids
      exact (List.map_injective_iff.2 g.name_injective hids).symm
    exact ⟨_, (fresh.visitAll ids').promote ids'⟩
  · cases h

/-! ## what the invariant says -/

section
variable (h : Consistent r expanded)
include h

/-- an expanded module has at most all modules as users and one from a promotion, and any other one
is not among its own users -/
theorem count_le_visited (m : Fin g.size) :
    r.tally.count m ≤ r.visited.count m + g.size + 1 := by
  have hle := h.count_le m
  have hsub : (expanded.filter (g.Uses · m)).card ≤ expanded.card := Finset.card_filter_le _ _
  by_cases hm : m ∈ expanded
  · have hcard : expanded.card ≤ g.size := (Finset.card_le_univ _).trans_eq (Fintype.card_fin _)
    have hraise : raise expanded r.promoted m ≤ 1 := by
      by_cases hold : m ∈ r.promoted
      · rw [raise_of_mem hold, if_pos hm]
      · rw [raise_of_not_mem hold]
        omega
    omega
  · have hcard : expanded.card < g.size :=
      (Finset.card_lt_univ_of_notMem hm).trans_eq (Fintype.card_fin _)
    have hraise : raise expanded r.promoted m ≤ 2 := by
      by_cases hold : m ∈ r.promoted
      · rw [raise_of_mem hold, if_neg hm]
      · rw [raise_of_not_mem hold]
        omega
    omega

theorem count_dependency_ne_zero (hm : r.tally.count m ≠ 0) (hroot : m ∉ r.tally.roots)
    {d : Fin g.size} (hd : g.Uses m d) : r.tally.count d ≠ 0 := by
  rw [h.roots_eq, List.mem_eraseDups] at hroot
  exact h.count_ne_zero_of_uses m ((h.mem_or_mem m hm).resolve_right hroot) d hd

/-- no turn of the loop raises a count above the visits asked for and the modules together -/
theorem count_bump_le (hturns : ReflTransGen Turn (r.tally, stack) (u, k :: rest)) :
    (u.bump k).count k ≤ (r.visited ++ stack).count k + g.size + 1 :=
  (count_bump_le_count_visitAll hturns).trans ((h.visitAll stack).count_le_visited k)

end

end Consistent

/-! ## all sessions -/

theorem exists_consistent_of_mem_perform {rs : List (Recorded g)}
    (h : ∀ r ∈ rs, ∃ expanded, Consistent r expanded) (op : Operation g) {r : Recorded g}
    (hr : r ∈ perform rs op) : ∃ expanded, Consistent r expanded := by
  have modified : ∀ (i : Nat) (f : Recorded g → Recorded g),
      (∀ r expanded, Consistent r expanded → ∃ expanded', Consistent (f r) expanded') →
      r ∈ rs.modify i f → ∃ expanded, Consistent r expanded := by
    intro i f hf hmem
    obtain ⟨j, hj⟩ := List.mem_iff_getElem?.1 hmem
    rw [List.getElem?_modify] at hj
    obtain ⟨r₀, hr₀, rfl⟩ := Option.map_eq_some_iff.1 hj
    obtain ⟨expanded, hc⟩ := h r₀ (List.mem_of_getElem? hr₀)
    split
    · exact hf r₀ expanded hc
    · exact ⟨expanded, hc⟩
  cases op with
  | new =>
    rcases List.mem_append.1 hr with hr | hr
    · exact h r hr
    · exact ⟨∅, List.mem_singleton.1 hr ▸ Consistent.fresh⟩
  | run names =>
    rcases List.mem_append.1 hr with hr | hr
    · exact h r hr
    · exact Consistent.ofRoots? (Option.mem_toList.1 hr)
  | visit i m => exact modified i _ (fun _ _ hc => hc.visit m) hr
  | promote i ms => exact modified i _ (fun _ _ hc => ⟨_, hc.promote ms⟩) hr
  | reset i => exact modified i _ (fun r _ _ => ⟨∅, Consistent.reset r⟩) hr
  | copy i =>
    rcases List.mem_append.1 hr with hr | hr
    · exact h r hr
    · exact h r (List.mem_of_getElem? (Option.mem_toList.1 hr))

theorem exists_consistent_of_mem_session (ops : List (Operation g)) :
    ∀ r ∈ session ops, ∃ expanded, Consistent r expanded := by
  induction ops using List.reverseRecOn with
  | nil => exact fun r hr => absurd hr List.not_mem_nil
  | append_singleton ops op ih =>
    intro r hr
    rw [session_concat] at hr
    exact exists_consistent_of_mem_perform ih op hr

/-- an operation keeps each tally at its place, and lowers no count unless it resets the tally -/
theorem exists_getElem?_perform {rs : List (Recorded g)} {i : Nat} {r : Recorded g}
    (hr : rs[i]? = some r) (op : Operation g) :
    ∃ r', (perform rs op)[i]? = some r' ∧
      (op ≠ .reset i → ∀ m, r.tally.count m ≤ r'.tally.count m) := by
  have appended : ∀ more : List (Recorded g), (rs ++ more)[i]? = some r := by
    intro more
    rw [List.getElem?_append_left (List.getElem?_eq_some_iff.1 hr).1]
    exact hr
  have modified : ∀ (j : Nat) (f : Recorded g → Recorded g),
      (rs.modify j f)[i]? = some (if j = i then f r else r) := by
    intro j f
    rw [List.getElem?_modify, hr]
    rfl
  cases op with
  | new => exact ⟨r, appended _, fun _ _ => Nat.le_refl _⟩
  | run names => exact ⟨r, appended _, fun _ _ => Nat.le_refl _⟩
  | visit j m =>
    refine ⟨_, modified j _, fun _ k => ?_⟩
    split
    · exact count_le_count_visitAll r.tally [m] k
    · exact Nat.le_refl _
  | promote j ms =>
    refine ⟨_, modified j _, fun _ k => ?_⟩
    split
    · exact count_le_count_promote r.tally ms k
    · exact Nat.le_refl _
  | reset j =>
    refine ⟨_, modified j _, fun hne k => ?_⟩
    rw [if_neg fun hj : j = i => hne (hj ▸ rfl)]
  | copy j => exact ⟨r, appended _, fun _ _ => Nat.le_refl _⟩

/-- **Tallies and their histories.** In every session, a tally has one count for each module of the
graph. Its roots are the modules that were promoted since it was new, each at its first place, and
each of them counts two or more. A counted module that is no root has all its dependencies counted.
A count is at most the number of direct visits of the module, since the tally was new, and the
number of all modules and one; so as long as there are fewer than `2 ^ 32` visits and modules, and
one more, no count needs more than 32 bits, neither between two operations nor inside of a visit or
of a selection. An operation lowers no count of a tally, unless it resets this tally, and then the
tally is as good as new. -/
theorem histories_of_sessions (g : ModuleGraph) (ops : List (Operation g)) :
    (∀ r ∈ session ops,
      r.tally.visits.toList.length = g.size ∧
      r.tally.roots = r.promoted.eraseDups ∧ r.tally.roots.Nodup ∧
      (∀ m ∈ r.tally.roots, 2 ≤ r.tally.count m) ∧
      (∀ m, r.tally.count m ≠ 0 → m ∉ r.tally.roots → ∀ d, g.Uses m d → r.tally.count d ≠ 0) ∧
      (∀ m, r.tally.count m ≤ r.visited.count m + g.size + 1) ∧
      (r.visited.length + g.size + 1 < 2 ^ 32 → ∀ m, r.tally.count m < 2 ^ 32) ∧
      (∀ m, (r.visited ++ [m]).length + g.size + 1 < 2 ^ 32 →
        ∀ u k rest, ReflTransGen Turn (r.tally, [m]) (u, k :: rest) →
          (u.bump k).count k < 2 ^ 32) ∧
      r.reset = Recorded.fresh g) ∧
    (∀ ids : List (Fin g.size), ids.length + g.size + 1 < 2 ^ 32 →
      ∀ u k rest, ReflTransGen Turn (∅, ids) (u, k :: rest) → (u.bump k).count k < 2 ^ 32) ∧
    ∀ op i r, (session ops)[i]? = some r →
      ∃ r', (session (ops ++ [op]))[i]? = some r' ∧
        (op ≠ .reset i → ∀ m, r.tally.count m ≤ r'.tally.count m) := by
  have turns : ∀ {r : Recorded g} {expanded}, Consistent r expanded → ∀ stack,
      (r.visited ++ stack).length + g.size + 1 < 2 ^ 32 → ∀ u k rest,
      ReflTransGen Turn (r.tally, stack) (u, k :: rest) → (u.bump k).count k < 2 ^ 32 := by
    intro r expanded hc stack hlen u k rest hturns
    have hle := hc.count_bump_le hturns
    have hcount : (r.visited ++ stack).count k ≤ (r.visited ++ stack).length :=
      List.count_le_length
    omega
  refine ⟨fun r hr => ?_, fun ids hlen => turns Consistent.fresh ids hlen, fun op i r hr => ?_⟩
  · obtain ⟨expanded, hc⟩ := exists_consistent_of_mem_session ops r hr
    refine ⟨by simp, hc.roots_eq, ?_, ?_, ?_, hc.count_le_visited, ?_, fun m => turns hc [m], ?_⟩
    · rw [hc.roots_eq]
      exact nodup_eraseDups _
    · intro m hm
      rw [hc.roots_eq, List.mem_eraseDups] at hm
      exact hc.two_le m hm
    · exact fun m hm hroot d hd => hc.count_dependency_ne_zero hm hroot hd
    · intro hlen m
      have hle := hc.count_le_visited m
      have hcount : r.visited.count m ≤ r.visited.length := List.count_le_length
      omega
    · rw [Recorded.reset, reset_eq_empty]
      rfl
  · rw [session_concat]
    exact exists_getElem?_perform hr op

/-- The stack is promoted before anything was visited, so it is counted and its dependencies are
not; the copy that is made before the reset keeps this state. -/
theorem histories_of_knot :
    ∃ r, (session [.new, .promote 0 [1, 1], .visit 0 0, .visit 0 0, .copy 0, .reset 0,
        .run ["app", "app"]] : List (Recorded knot))[1]? = some r ∧
      r.tally.visits = #v[2, 3, 2, 0, 0] ∧ r.visited = [0, 0] ∧ r.promoted = [1, 1] ∧
      r.tally.roots = [1] ∧ knot.Uses 1 3 ∧ r.tally.count 3 = 0 ∧
      (∀ m, r.tally.count m ≠ 0 → m ∉ r.tally.roots → ∀ d, knot.Uses m d → r.tally.count d ≠ 0) ∧
      (∀ m, r.tally.count m ≤ r.visited.count m + 5 + 1) ∧ ∀ m, r.tally.count m < 2 ^ 32 := by
  have hr : (session [.new, .promote 0 [1, 1], .visit 0 0, .visit 0 0, .copy 0, .reset 0,
      .run ["app", "app"]] : List (Recorded knot))[1]? =
        some ⟨⟨#v[2, 3, 2, 0, 0], [1]⟩, [0, 0], [1, 1]⟩ := by cbv
  obtain ⟨-, -, -, -, hclosed, hle, hword, -⟩ :=
    (histories_of_sessions knot _).1 _ (List.mem_of_getElem? hr)
  exact ⟨_, hr, rfl, rfl, rfl, rfl, by decide, rfl, hclosed, hle, hword (by decide)⟩

end Tally

end ServiceBoundary
