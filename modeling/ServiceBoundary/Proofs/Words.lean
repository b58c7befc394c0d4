import ServiceBoundary.Proofs.Selection
import ServiceBoundary.Tally.Counters

/-!
# Words and numbers

`Trace.Ends` tells of a loop that counts in words of 32 bits, and `Tally.propagate` counts in
numbers. Counts only grow, so if the counts at the end fit into words, every count on the way does,
and then the loop in words ends as the one in numbers, whatever an overflow would do. And if a build
with checks is not broken off, the counts fit.

* `Tally.Fits`, `Tally.words`   the counts of a tally in words, if they fit;
* `ends_words`, `visitsEnd_words`   where loops in words end if the counts of the end fit;
* `fits_of_ends`, `fits_of_visitsEnd`   a loop with checks that is not broken off leaves counts that
  fit; so it is the loop in numbers (`eq_of_ends`, `eq_of_visitsEnd`);
* `words_promote`   promotions, which compare counts and do not add;
* `ofRoots_words`, `exists_ofRoots_of_checked`   runs in words, and runs with checks;
* `keptInWords_ofRoots`   as long as there are fewer than `2 ^ 32` roots and modules, and one more,
  a run in words leaves the tally of the selection.
-/

namespace ServiceBoundary

namespace Counters
variable {g : ModuleGraph} {c d : Counters g}

@[ext] theorem ext (hc : ∀ m, c.count m = d.count m) (hr : c.roots = d.roots) : c = d := by
  obtain ⟨cv, cr⟩ := c
  obtain ⟨dv, dr⟩ := d
  obtain rfl : cr = dr := hr
  have hv : cv = dv := Vector.ext fun i hi => hc ⟨i, hi⟩
  rw [hv]

theorem count_setCount (c : Counters g) (m k : Fin g.size) (n : UInt32) :
    (c.setCount m n).count k = if m = k then n else c.count k := by
  change (c.visits.setIfInBounds m n)[k.val] = if m = k then n else c.visits[k.val]
  simp [Vector.getElem_setIfInBounds, Fin.ext_iff]

theorem count_tally (c : Counters g) (m : Fin g.size) :
    c.tally.count m = (c.count m).toNat := by
  change (c.visits.map UInt32.toNat)[m.val] = c.visits[m.val].toNat
  rw [Vector.getElem_map]

end Counters

namespace Tally
variable {g : ModuleGraph} {t : Tally g} {m : Fin g.size} {l : List (Fin g.size)} {o : Overflow}
  {c : Counters g} {names : List String}

/-! ## the counts in words -/

/-- no count needs more than 32 bits -/
def Fits (t : Tally g) : Prop := ∀ m, t.count m < 2 ^ 32

/-- the counts in words of 32 bits -/
def words (t : Tally g) : Counters g where
  visits := t.visits.map UInt32.ofNat
  roots := t.roots

theorem count_words (t : Tally g) (m : Fin g.size) :
    t.words.count m = UInt32.ofNat (t.count m) := by
  change (t.visits.map UInt32.ofNat)[m.val] = UInt32.ofNat t.visits[m.val]
  rw [Vector.getElem_map]

@[simp] theorem words_empty : (∅ : Tally g).words = ∅ := by
  refine Counters.ext (fun m => ?_) rfl
  rw [count_words, count_empty]
  change _ = (Vector.replicate g.size 0)[m.val]
  rw [Vector.getElem_replicate]
  rfl

theorem fits_empty : (∅ : Tally g).Fits := by
  intro m
  rw [count_empty]
  decide

theorem count_ne_zero_of_words (h : t.words.count m ≠ 0) : t.count m ≠ 0 := by
  intro hzero
  rw [count_words, hzero] at h
  exact h rfl

theorem words_reset (t : Tally g) : t.reset.words = t.words.reset := by
  refine Counters.ext (fun m => ?_) rfl
  rw [reset_eq_empty, count_words, count_empty]
  change _ = (t.words.visits.map fun _ => 0)[m.val]
  rw [Vector.getElem_map]
  rfl

theorem words_setCount (t : Tally g) (m : Fin g.size) (n : Nat) :
    (t.setCount m n).words = t.words.setCount m (UInt32.ofNat n) := by
  refine Counters.ext (fun k => ?_) rfl
  rw [count_words, count_setCount, Counters.count_setCount, count_words]
  split <;> rfl

theorem fits_tally (c : Counters g) : c.tally.Fits := by
  intro m
  rw [Counters.count_tally]
  exact (c.count m).toNat_lt

theorem words_tally (c : Counters g) : c.tally.words = c := by
  refine Counters.ext (fun m => ?_) rfl
  rw [count_words, Counters.count_tally, UInt32.ofNat_toNat]

theorem tally_words (h : t.Fits) : t.words.tally = t := by
  refine Tally.ext (fun m => ?_) rfl
  rw [Counters.count_tally, count_words, UInt32.toNat_ofNat_of_lt' (h m)]

/-- counters are a tally whose counts fit, in words -/
theorem exists_words (c : Counters g) : ∃ t : Tally g, t.Fits ∧ t.words = c :=
  ⟨c.tally, fits_tally c, words_tally c⟩

theorem Fits.of_le {u : Tally g} (h : u.Fits) (hle : ∀ m, t.count m ≤ u.count m) : t.Fits :=
  fun m => (hle m).trans_lt (h m)

theorem Fits.of_visitAll {stack : List (Fin g.size)} (h : (t.visitAll stack).Fits) : t.Fits :=
  h.of_le fun m => count_le_count_visitAll t stack m

theorem Fits.promote (h : t.Fits) (ms : List (Fin g.size)) : (t.promote ms).Fits := by
  intro m
  have := h m
  rw [count_promote]
  split <;> omega

/-! ## the loop in words -/

section
variable (h : (t.bump m).Fits)
include h

theorem bump_words : Trace.bump o ⟨t.words, l⟩ m = .ok ⟨(t.bump m).words, l⟩ := by
  have hlt : t.count m + 1 < 2 ^ 32 := by
    have := h m
    rwa [count_bump, if_pos rfl] at this
  have hone : o.increment (t.words.count m) = some (UInt32.ofNat (t.count m + 1)) := by
    have hsucc : UInt32.ofNat (t.count m) + 1 = UInt32.ofNat (t.count m + 1) :=
      (UInt32.ofNat_add _ _).symm
    rw [count_words]
    cases o with
    | wraps => exact congrArg some hsucc
    | stops =>
      have hne : UInt32.ofNat (t.count m) ≠ 0xffffffff := by
        intro heq
        have := congrArg UInt32.toNat heq
        rw [UInt32.toNat_ofNat_of_lt' (Nat.lt_of_succ_lt hlt)] at this
        exact absurd (this ▸ hlt) (by decide)
      rw [Overflow.increment, if_neg hne, hsucc]
  rw [Trace.bump, hone, bump, words_setCount]

theorem toNat_count_words : ((t.bump m).words.count m).toNat = t.count m + 1 := by
  rw [count_words, UInt32.toNat_ofNat_of_lt' (h m), count_bump, if_pos rfl]

theorem one_lt_count_words (hm : t.count m ≠ 0) : 1 < (t.bump m).words.count m := by
  rw [UInt32.lt_iff_toNat_lt, toNat_count_words h]
  change 1 < t.count m + 1
  omega

theorem not_one_lt_count_words (hm : t.count m = 0) : ¬ 1 < (t.bump m).words.count m := by
  rw [UInt32.lt_iff_toNat_lt, toNat_count_words h, hm]
  decide

end

/-- **A loop in words ends as the one in numbers, if the counts of the end fit.** -/
theorem ends_words {stack : List (Fin g.size)} (h : (t.visitAll stack).Fits) :
    Trace.Ends o ⟨t.words, l⟩ stack (.ok ⟨(t.visitAll stack).words, l ++ t.opened stack⟩) := by
  induction t, stack using propagate_induction generalizing l with
  | nil t =>
    rw [visitAll_nil, opened_nil, List.append_nil]
    exact Trace.Ends.done
  | first t m stack hm ih =>
    rw [visitAll_cons_of_eq_zero hm] at h ⊢
    have hbump : (t.bump m).Fits := h.of_visitAll
    rw [opened_cons_of_eq_zero hm, List.append_cons]
    exact Trace.Ends.first (bump_words hbump) (not_one_lt_count_words hbump hm) (ih h)
  | later t m stack hm ih =>
    rw [visitAll_cons_of_ne_zero hm] at h ⊢
    have hbump : (t.bump m).Fits := h.of_visitAll
    rw [opened_cons_of_ne_zero hm]
    exact Trace.Ends.later (bump_words hbump) (one_lt_count_words hbump hm) (ih h)

theorem visitsEnd_words {ms : List (Fin g.size)} (h : (t.visitAll ms).Fits) :
    Trace.VisitsEnd o ⟨t.words, l⟩ ms (.ok ⟨(t.visitAll ms).words, l ++ t.opened ms⟩) := by
  induction ms generalizing t l with
  | nil =>
    rw [visitAll_nil, opened_nil, List.append_nil]
    exact Trace.VisitsEnd.done
  | cons m ms ih =>
    have hvisits : t.visitAll (m :: ms) = (t.visitAll [m]).visitAll ms := visitAll_append t [m] ms
    have hopened : t.opened (m :: ms) = t.opened [m] ++ (t.visitAll [m]).opened ms :=
      opened_append t [m] ms
    rw [hvisits] at h ⊢
    rw [hopened, ← List.append_assoc]
    exact Trace.VisitsEnd.next (ends_words h.of_visitAll) (ih h)

/-! ## loops with checks -/

theorem fits_of_bump {u : Trace g} (ht : t.Fits)
    (h : Trace.bump .stops ⟨t.words, l⟩ m = .ok u) : (t.bump m).Fits := by
  have hne : t.words.count m ≠ 0xffffffff := by
    intro heq
    rw [Trace.bump, heq] at h
    cases h
  have hmax : t.count m ≠ 2 ^ 32 - 1 := by
    intro heq
    rw [count_words, heq] at hne
    exact hne rfl
  intro k
  have hk := ht k
  rw [count_bump]
  split
  case isTrue hmk =>
    subst hmk
    omega
  case isFalse => exact hk

theorem eq_of_bump {u : Trace g} (ht : t.Fits)
    (h : Trace.bump .stops ⟨t.words, l⟩ m = .ok u) : u = ⟨(t.bump m).words, l⟩ :=
  Except.ok.inj (h.symm.trans (bump_words (fits_of_bump ht h)))

theorem fits_of_ends {stack : List (Fin g.size)} {u : Trace g} (ht : t.Fits)
    (h : Trace.Ends .stops ⟨t.words, l⟩ stack (.ok u)) : (t.visitAll stack).Fits := by
  induction t, stack using propagate_induction generalizing l with
  | nil t => rwa [visitAll_nil]
  | first t m stack hm ih =>
    rw [visitAll_cons_of_eq_zero hm]
    cases h with
    | later hbump hlt =>
      obtain rfl := eq_of_bump ht hbump
      exact absurd hlt (not_one_lt_count_words (fits_of_bump ht hbump) hm)
    | first hbump _ h =>
      obtain rfl := eq_of_bump ht hbump
      exact ih (fits_of_bump ht hbump) h
  | later t m stack hm ih =>
    rw [visitAll_cons_of_ne_zero hm]
    cases h with
    | later hbump _ h =>
      obtain rfl := eq_of_bump ht hbump
      exact ih (fits_of_bump ht hbump) h
    | first hbump hle =>
      obtain rfl := eq_of_bump ht hbump
      exact absurd (one_lt_count_words (fits_of_bump ht hbump) hm) hle

theorem eq_of_ends {stack : List (Fin g.size)} {u : Trace g} (ht : t.Fits)
    (h : Trace.Ends .stops ⟨t.words, l⟩ stack (.ok u)) :
    u = ⟨(t.visitAll stack).words, l ++ t.opened stack⟩ :=
  Except.ok.inj (h.unique (ends_words (fits_of_ends ht h)))

theorem fits_of_visitsEnd {ms : List (Fin g.size)} {u : Trace g} (ht : t.Fits)
    (h : Trace.VisitsEnd .stops ⟨t.words, l⟩ ms (.ok u)) : (t.visitAll ms).Fits := by
  induction ms generalizing t l with
  | nil => rwa [visitAll_nil]
  | cons m ms ih =>
    rw [← List.singleton_append, visitAll_append]
    cases h with
    | next hvisit h =>
      obtain rfl := eq_of_ends ht hvisit
      exact ih (fits_of_ends ht hvisit) h

theorem eq_of_visitsEnd {ms : List (Fin g.size)} {u : Trace g} (ht : t.Fits)
    (h : Trace.VisitsEnd .stops ⟨t.words, l⟩ ms (.ok u)) :
    u = ⟨(t.visitAll ms).words, l ++ t.opened ms⟩ :=
  Except.ok.inj (h.unique (visitsEnd_words (fits_of_visitsEnd ht h)))

/-! ## promotions and runs -/

theorem words_promoteOne (h : t.Fits) (m : Fin g.size) :
    (t.promoteOne m).words = t.words.promoteOne m := by
  have hle : t.words.count m ≤ 1 ↔ t.count m ≤ 1 := by
    rw [count_words, UInt32.le_iff_toNat_le, UInt32.toNat_ofNat_of_lt' (h m)]
    rfl
  refine Counters.ext (fun k => ?_) ?_
  · change (if t.count m ≤ 1 then t.setCount m 2 else t).words.count k =
      (if t.words.count m ≤ 1 then t.words.setCount m 2 else t.words).count k
    by_cases hm : t.count m ≤ 1
    · rw [if_pos hm, if_pos (hle.2 hm), words_setCount]
      rfl
    · rw [if_neg hm, if_neg (mt hle.1 hm)]
  · change (if m ∈ t.roots then t.roots else t.roots ++ [m]) =
      if t.roots.contains m then t.roots else t.roots ++ [m]
    simp only [List.contains_iff_mem]

theorem words_promote (h : t.Fits) (ms : List (Fin g.size)) :
    (t.promote ms).words = t.words.promote ms := by
  induction ms generalizing t with
  | nil => rfl
  | cons m ms ih =>
    have hone : (t.promoteOne m).Fits := h.promote [m]
    change ((t.promoteOne m).promote ms).words = (t.words.promoteOne m).promote ms
    rw [ih hone, words_promoteOne h]

theorem ofRoots_words (h : ofRoots g names = .ok t) (hfits : t.Fits) :
    Counters.OfRoots o names t.words := by
  obtain ⟨hne, ids, hids, rfl⟩ := ofRoots_eq_ok_iff.1 h
  have hvisits : ((∅ : Tally g).visitAll ids).Fits :=
    hfits.of_le fun m => count_le_count_promote _ ids m
  have hloop := visitsEnd_words (o := o) (l := []) hvisits
  rw [words_empty] at hloop
  exact ⟨hne, ids, _, ModuleGraph.findRoots_eq_ok_iff.2 hids, hloop,
    (words_promote hvisits ids).symm⟩

theorem exists_ofRoots_of_checked (h : Counters.OfRoots .stops names c) :
    ∃ t, ofRoots g names = .ok t ∧ t.Fits ∧ t.words = c := by
  obtain ⟨hne, ids, u, hids, hloop, rfl⟩ := h
  rw [← words_empty] at hloop
  have hvisits := fits_of_visitsEnd fits_empty hloop
  obtain rfl := eq_of_visitsEnd fits_empty hloop
  exact ⟨_, ofRoots_eq_ok_iff.2 ⟨hne, ids, ModuleGraph.findRoots_eq_ok_iff.1 hids, rfl⟩,
    hvisits.promote ids, words_promote hvisits ids⟩

/-- with fewer than `2 ^ 32` roots and modules, and one more, a run in words ends in either build
and leaves the counts of the tally -/
def KeptInWords (t : Tally g) (names : List String) : Prop :=
  names.length + g.size + 1 < 2 ^ 32 → ∀ o, ∃ c, Counters.OfRoots o names c ∧ c.tally = t

/-- **The tally of a selection is what a run in words leaves.** -/
theorem keptInWords_ofRoots (h : ofRoots g names = .ok t) : t.KeptInWords names := by
  intro hlen o
  have hfits : t.Fits := by
    obtain ⟨-, ids, rfl, rfl⟩ := ofRoots_eq_ok_iff.1 h
    rw [List.length_map] at hlen
    refine Fits.promote (fun m => ?_) ids
    have := count_visitAll_empty_le ids m
    omega
  exact ⟨t.words, ofRoots_words h hfits, tally_words hfits⟩

end Tally

end ServiceBoundary
