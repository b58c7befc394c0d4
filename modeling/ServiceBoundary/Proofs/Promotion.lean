import ServiceBoundary.Proofs.Counterparts
import ServiceBoundary.Proofs.Words

/-!
# Promotions among visits

A promotion makes modules roots: it lists them, and it raises counts to two where they are lower.
Visits do not look at the list, and of a count they only ask whether it is zero. So a promotion of
modules that are counted already may come before visits or after them. The counts of the promoted
modules do depend on this, since a visit adds to a count that was raised and is lost below one that
is raised later; but they are two or more in both cases. The counters of the program follow, in
words of 32 bits, as long as no count passes the largest word; behind it the order matters
(`promotion_after_overflow`).

* `opened_congr`     what is opened depends on nothing but which modules are not counted yet;
* `Alike`            the same roots and the same roles; so the same plan (`Alike.plan_eq`);
* `alike_promote_visitAll`   a promotion of counted modules, before visits and after them;
* `alike_visitAll_ofRoots`   what this says of a selection that is made in two parts;
* `promotion_commutes_with_visits`   both of it for counters in words.
-/

namespace ServiceBoundary

namespace Tally
open ModuleGraph (knot)
variable {g : ModuleGraph} {s t : Tally g} {m k : Fin g.size} {names names' : List String}
  {ids' ms : List (Fin g.size)}

/-! ## what a promotion changes -/

theorem roots_promoteOne (t : Tally g) (m : Fin g.size) :
    (t.promoteOne m).roots = if m ∈ t.roots then t.roots else t.roots ++ [m] := rfl

theorem roots_promote_congr (h : s.roots = t.roots) (ms : List (Fin g.size)) :
    (s.promote ms).roots = (t.promote ms).roots := by
  induction ms generalizing s t with
  | nil => exact h
  | cons m ms ih =>
    refine ih ?_
    rw [roots_promoteOne, roots_promoteOne, h]

theorem promote_append (t : Tally g) (ids ids' : List (Fin g.size)) :
    t.promote (ids ++ ids') = (t.promote ids).promote ids' :=
  List.foldl_append

theorem role_promote (t : Tally g) (ms : List (Fin g.size)) (m : Fin g.size) :
    (t.promote ms).role m = if m ∈ ms then .standalone else t.role m := by
  by_cases hm : m ∈ ms
  · rw [if_pos hm, role_eq_standalone_iff, count_promote, if_pos hm]
    omega
  · rw [if_neg hm]
    refine role_eq_of_count_eq ?_
    rw [count_promote, if_neg hm]

theorem count_promote_eq_zero_iff (h : ∀ x ∈ ms, t.count x ≠ 0) :
    (t.promote ms).count m = 0 ↔ t.count m = 0 := by
  rw [count_promote]
  split
  case isTrue hm =>
    have := h m hm
    omega
  case isFalse => exact Iff.rfl

/-! ## the same roots and roles -/

/-- the two tallies have the same roots, and each module has the same role in both -/
structure Alike (s t : Tally g) : Prop where
  roots_eq : s.roots = t.roots
  role_eq : ∀ m, s.role m = t.role m

theorem Alike.promote (h : s.Alike t) (ms : List (Fin g.size)) :
    (s.promote ms).Alike (t.promote ms) where
  roots_eq := roots_promote_congr h.roots_eq ms
  role_eq m := by rw [role_promote, role_promote, h.role_eq]

theorem Alike.plan_eq (h : s.Alike t) (policy : FlagPolicy) : s.plan policy = t.plan policy := by
  refine plan_congr (standalone_congr fun m => ?_) policy
  rw [mem_standalone, mem_standalone, ← role_eq_standalone_iff, ← role_eq_standalone_iff,
    h.role_eq]

/-! ## promotions and visits -/

theorem opened_congr (h : ∀ m, s.count m = 0 ↔ t.count m = 0) (stack : List (Fin g.size)) :
    s.opened stack = t.opened stack := by
  have bump : ∀ {s t : Tally g}, (∀ m, s.count m = 0 ↔ t.count m = 0) →
      ∀ k m, (s.bump k).count m = 0 ↔ (t.bump k).count m = 0 := by
    intro s t h k m
    have := h m
    rw [count_bump, count_bump]
    omega
  induction t, stack using propagate_induction generalizing s with
  | nil t => rw [opened_nil, opened_nil]
  | first t m stack hm ih =>
    rw [opened_cons_of_eq_zero ((h m).2 hm), opened_cons_of_eq_zero hm, ih (bump h m)]
  | later t m stack hm ih =>
    have hm' : s.count m ≠ 0 := fun hs => hm ((h m).1 hs)
    rw [opened_cons_of_ne_zero hm', opened_cons_of_ne_zero hm, ih (bump h m)]

section
variable (h : ∀ x ∈ ms, t.count x ≠ 0)
include h

theorem opened_promote (stack : List (Fin g.size)) :
    (t.promote ms).opened stack = t.opened stack :=
  opened_congr (fun _ => count_promote_eq_zero_iff h) stack

theorem count_visitAll_promote (hm : m ∉ ms) (stack : List (Fin g.size)) :
    ((t.promote ms).visitAll stack).count m = ((t.visitAll stack).promote ms).count m := by
  rw [count_visitAll, opened_promote h, count_promote, if_neg hm, count_promote, if_neg hm,
    count_visitAll]

/-- **A promotion of counted modules may come before visits or after them.** -/
theorem alike_promote_visitAll (stack : List (Fin g.size)) :
    ((t.promote ms).visitAll stack).Alike ((t.visitAll stack).promote ms) where
  roots_eq := by
    rw [roots_visitAll]
    exact roots_promote_congr (roots_visitAll t stack).symm ms
  role_eq m := by
    by_cases hm : m ∈ ms
    · -- the two counts may differ, but both are two or more
      rw [role_promote, if_pos hm, role_eq_standalone_iff]
      have hle := count_le_count_visitAll (t.promote ms) stack m
      rw [count_promote, if_pos hm] at hle
      omega
    · exact role_eq_of_count_eq (count_visitAll_promote h hm stack)

end

/-! ## a selection in two parts -/

theorem alike_visitAll_ofRoots (ht : ofRoots g names = .ok t) (h : ids'.map g.name = names') :
    ∃ t', ofRoots g (names ++ names') = .ok t' ∧ ((t.visitAll ids').promote ids').Alike t' := by
  obtain ⟨hne, ids, hids, rfl⟩ := ofRoots_eq_ok_iff.1 ht
  refine ⟨_, ofRoots_eq_ok_iff.2 ⟨?_, ids ++ ids', ?_, rfl⟩, ?_⟩
  · exact fun hnil => hne (List.append_eq_nil_iff.1 hnil).1
  · rw [List.map_append, hids, h]
  · rw [visitAll_append, promote_append]
    have hcounted : ∀ x ∈ ids, ((∅ : Tally g).visitAll ids).count x ≠ 0 := fun x hx =>
      count_visitAll_ne_zero_of_mem ∅ hx
    exact (alike_promote_visitAll hcounted ids').promote ids'

/-! ## promotions and visits of counters -/

/-- a promotion takes no room away: what fits after it fits before it -/
theorem Fits.of_promote (h : ∀ x ∈ ms, t.count x ≠ 0) {stack : List (Fin g.size)}
    (hfits : ((t.promote ms).visitAll stack).Fits) : (t.visitAll stack).Fits := by
  refine hfits.of_le fun m => ?_
  have hle := count_le_count_promote t ms m
  rw [count_visitAll, count_visitAll, opened_promote h]
  omega

theorem fits_ofRoots_append (ht : ofRoots g names = .ok t) (h : ids'.map g.name = names')
    (hfits : (t.visitAll ids').Fits) {t' : Tally g}
    (ht' : ofRoots g (names ++ names') = .ok t') : t'.Fits := by
  obtain ⟨-, ids, hids, rfl⟩ := ofRoots_eq_ok_iff.1 ht
  obtain ⟨-, all, hall, rfl⟩ := ofRoots_eq_ok_iff.1 ht'
  obtain rfl : all = ids ++ ids' := by
    refine List.map_injective_iff.2 g.name_injective ?_
    rw [hall, List.map_append, hids, h]
  have hcounted : ∀ x ∈ ids, ((∅ : Tally g).visitAll ids).count x ≠ 0 := fun x hx =>
    count_visitAll_ne_zero_of_mem ∅ hx
  rw [visitAll_append]
  exact (Fits.of_promote hcounted hfits).promote _

/-- **A promotion of counted modules commutes with visits.** In any state of the counters, modules
that are counted may be promoted first and others visited then, or the other way round. If the
first is not broken off by checks, so that no count passes `2 ^ 32 - 1`, both end in either build:
the same modules are expanded, in the same order, the roots are the same, each module has the same
role, and each module that is not promoted has the same count. So, once a run with checks has ended,
visits of more modules, if they are not broken off either, and then the promotion of these lead to
the roots, the roles and the plans of the run that names them from the start, behind the others. -/
theorem promotion_commutes_with_visits (g : ModuleGraph) :
    (∀ (c : Counters g) (xs ys l : List (Fin g.size)) (u : Trace g), (∀ x ∈ xs, c.count x ≠ 0) →
      Trace.VisitsEnd .stops ⟨c.promote xs, l⟩ ys (.ok u) → ∀ o,
      Trace.VisitsEnd o ⟨c.promote xs, l⟩ ys (.ok u) ∧
      ∃ v, Trace.VisitsEnd o ⟨c, l⟩ ys (.ok v) ∧ u.fresh = v.fresh ∧
        u.counters.roots = (v.counters.promote xs).roots ∧
        (∀ m, u.counters.tally.role m = (v.counters.promote xs).tally.role m) ∧
        ∀ m, m ∉ xs → u.counters.count m = (v.counters.promote xs).count m) ∧
    ∀ names names' (c : Counters g) (ids' : List (Fin g.size)) (u : Trace g),
      Counters.OfRoots .stops names c → g.findRoots names' = .ok ids' →
      Trace.VisitsEnd .stops ⟨c, []⟩ ids' (.ok u) → ∀ o,
      Counters.OfRoots o names c ∧ Trace.VisitsEnd o ⟨c, []⟩ ids' (.ok u) ∧
      ∃ c', Counters.OfRoots o (names ++ names') c' ∧
        (u.counters.promote ids').roots = c'.roots ∧
        (∀ m, (u.counters.promote ids').tally.role m = c'.tally.role m) ∧
        ∀ policy, ∃ plan, (u.counters.promote ids').tally.plan policy = .ok plan ∧
          c'.tally.plan policy = .ok plan := by
  constructor
  · intro c xs ys l u hcounted hchecked o
    obtain ⟨t, ht, rfl⟩ := exists_words c
    have hne : ∀ x ∈ xs, t.count x ≠ 0 := fun x hx => count_ne_zero_of_words (hcounted x hx)
    rw [← words_promote ht] at hchecked ⊢
    have hfirst : ((t.promote xs).visitAll ys).Fits := fits_of_visitsEnd (ht.promote xs) hchecked
    have hlast : (t.visitAll ys).Fits := Fits.of_promote hne hfirst
    obtain rfl := eq_of_visitsEnd (ht.promote xs) hchecked
    have halike := alike_promote_visitAll hne ys
    refine ⟨visitsEnd_words hfirst, _, visitsEnd_words hlast, ?_, ?_, fun m => ?_, fun m hm => ?_⟩
    · rw [opened_promote hne]
    · rw [← words_promote hlast]
      exact halike.roots_eq
    · rw [tally_words hfirst, ← words_promote hlast, tally_words (hlast.promote xs),
        halike.role_eq]
    · rw [← words_promote hlast, count_words, count_words, count_visitAll_promote hne hm]
  · intro names names' c ids' u hrun hids' hchecked o
    obtain ⟨t, ht, hfits, rfl⟩ := exists_ofRoots_of_checked hrun
    have hmore : (t.visitAll ids').Fits := fits_of_visitsEnd hfits hchecked
    obtain rfl := eq_of_visitsEnd hfits hchecked
    have hnames := ModuleGraph.findRoots_eq_ok_iff.1 hids'
    obtain ⟨t', ht', halike⟩ := alike_visitAll_ofRoots ht hnames
    have hfits' : t'.Fits := fits_ofRoots_append ht hnames hmore ht'
    refine ⟨ofRoots_words ht hfits, visitsEnd_words hmore, _, ofRoots_words ht' hfits', ?_⟩
    rw [← words_promote hmore, tally_words (hmore.promote ids'), tally_words hfits']
    refine ⟨halike.roots_eq, halike.role_eq, fun policy => ?_⟩
    rw [halike.plan_eq]
    exact ⟨_, plan_ofRoots ht' policy, plan_ofRoots ht' policy⟩

/-- the driver is asked for after the application; its count shows whether it was promoted before
that, its role does not -/
theorem nic_of_knot_asked_for_later :
    ∃ (c c' : Counters knot) (u v : Trace knot),
      Counters.OfRoots .stops ["app"] c ∧ (∀ x ∈ [3], c.count x ≠ 0) ∧
      Trace.VisitsEnd .stops ⟨c.promote [3], []⟩ [3] (.ok u) ∧
      Trace.VisitsEnd .wraps ⟨c, []⟩ [3] (.ok v) ∧
      u.counters.count 3 = 3 ∧ (v.counters.promote [3]).count 3 = 2 ∧
      u.counters.tally.role 3 = (v.counters.promote [3]).tally.role 3 ∧
      knot.findRoots ["nic"] = .ok [3] ∧ Counters.OfRoots .wraps ["app", "nic"] c' ∧
      (v.counters.promote [3]).roots = c'.roots ∧
      ∃ plan, (v.counters.promote [3]).tally.plan .local = .ok plan ∧
        c'.tally.plan .local = .ok plan := by
  have happ : ofRoots knot ["app"] = .ok ⟨#v[2, 2, 3, 1, 0], [0]⟩ := by cbv
  have hwords : (⟨#v[2, 2, 3, 1, 0], [0]⟩ : Tally knot).words = ⟨#v[2, 2, 3, 1, 0], [0]⟩ := by cbv
  have hrun : Counters.OfRoots .stops ["app"] (⟨#v[2, 2, 3, 1, 0], [0]⟩ : Counters knot) := by
    rw [← hwords]
    exact ofRoots_words happ (by unfold Fits; decide)
  have hids : knot.findRoots ["nic"] = .ok [3] := by cbv
  have hcounted : ∀ x ∈ [3], (⟨#v[2, 2, 3, 1, 0], [0]⟩ : Counters knot).count x ≠ 0 := by decide
  -- the driver is counted already, so its count is increased and nothing else happens
  have hfirst : Trace.VisitsEnd .stops
      ⟨(⟨#v[2, 2, 3, 1, 0], [0]⟩ : Counters knot).promote [3], []⟩ [3]
      (.ok ⟨⟨#v[2, 2, 3, 3, 0], [0, 3]⟩, []⟩) :=
    Trace.visitsEnd_singleton_iff.2 (Trace.Ends.later rfl (by decide) Trace.Ends.done)
  have hlast : Trace.VisitsEnd .stops ⟨(⟨#v[2, 2, 3, 1, 0], [0]⟩ : Counters knot), []⟩ [3]
      (.ok ⟨⟨#v[2, 2, 3, 2, 0], [0]⟩, []⟩) :=
    Trace.visitsEnd_singleton_iff.2 (Trace.Ends.later rfl (by decide) Trace.Ends.done)
  obtain ⟨hcommute, hparts⟩ := promotion_commutes_with_visits knot
  obtain ⟨-, v, hv, -, -, hrole, -⟩ := hcommute _ [3] [3] [] _ hcounted hfirst .wraps
  obtain ⟨-, hlast', c', hc', hroots, -, hplan⟩ := hparts _ _ _ _ _ hrun hids hlast .wraps
  obtain rfl := Except.ok.inj (hlast'.unique hv)
  exact ⟨_, c', _, _, hrun, hcounted, hfirst, hv, rfl, rfl, hrole 3, hids, hc', hroots,
    hplan .local⟩

/-- only the network stack and its driver are counted -/
def driven (net nic : UInt32) (roots : List (Fin knot.size)) : Counters knot :=
  ⟨#v[0, net, 0, nic, 0], roots⟩

/-- Behind the largest count the order does matter: the visit leaves the driver with a count of
zero, and only a promotion that comes later raises it again. And a name that is not declared cannot
be visited, but a run refuses it. -/
theorem promotion_after_overflow :
    (∀ x ∈ [3], (driven 1 0xffffffff []).count x ≠ 0) ∧
    (∃ u v : Trace knot,
      Trace.VisitsEnd .wraps ⟨(driven 1 0xffffffff []).promote [3], []⟩ [3] (.ok u) ∧
      Trace.VisitsEnd .wraps ⟨driven 1 0xffffffff [], []⟩ [3] (.ok v) ∧
      u.counters.tally.role 3 = .unused ∧
      (v.counters.promote [3]).tally.role 3 = .standalone) ∧
    (∃ c : Counters knot, Counters.OfRoots .wraps ["app"] c) ∧
    knot.findRoots ["app", "zzz"] = .error (.unknownRoot "zzz") ∧
    ¬ ∃ c : Counters knot, Counters.OfRoots .wraps (["app"] ++ ["zzz"]) c := by
  have happ : ofRoots knot ["app"] = .ok ⟨#v[2, 2, 3, 1, 0], [0]⟩ := by cbv
  have hzzz : knot.findRoots ["app", "zzz"] = .error (.unknownRoot "zzz") := by cbv
  -- the driver is expanded, and the stack below it is counted already
  have visit : ∀ roots, Trace.VisitsEnd .wraps ⟨driven 1 0xffffffff roots, []⟩ [3]
      (.ok ⟨driven 2 0 roots, [3]⟩) := by
    intro roots
    have hmax : Trace.bump .wraps ⟨driven 1 0xffffffff roots, []⟩ 3 =
        .ok ⟨driven 1 0 roots, []⟩ := by cbv
    have hnet : Trace.bump .wraps ⟨driven 1 0 roots, [3]⟩ 1 = .ok ⟨driven 2 0 roots, [3]⟩ := by cbv
    have hzero : ¬ 1 < (driven 1 0 roots).count 3 := by
      change ¬ (1 : UInt32) < 0
      decide
    have htwo : 1 < (driven 2 0 roots).count 1 := by
      change (1 : UInt32) < 2
      decide
    exact Trace.visitsEnd_singleton_iff.2
      (Trace.Ends.first hmax hzero (Trace.Ends.later hnet htwo Trace.Ends.done))
  refine ⟨by decide, ⟨_, _, visit [3], visit [], by cbv, by cbv⟩,
    ⟨_, ofRoots_words happ (by unfold Fits; decide)⟩, hzzz, ?_⟩
  rintro ⟨c, -, ids, u, hids, -⟩
  cases hzzz.symm.trans hids

end Tally

end ServiceBoundary
