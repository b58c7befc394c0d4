import ServiceBoundary.Proofs.Selection
import ServiceBoundary.Proofs.Walk

/-!
# Counts that answer for their demand

A tally is accounted for by a list of modules that were asked for if every counted module can be
reached from one of them, and each count covers the demand for the module, and one more if it was
asked for.

Visiting more modules keeps it so (`Accounted.visitAll`), and so does raising counts of modules that
are counted already (`Accounted.promote`). What follows is the shape that folding relies on: a
module that counts less than two has at most one user, and none if it was asked for. So a circle of
counted modules has a service in it (`Accounted.exists_two_le_of_isCycle`): otherwise nobody asked
for one of its modules, and the way that leads into the circle would make a second user.
-/

namespace ServiceBoundary
open Relation

namespace Tally
variable {g : ModuleGraph} {t u : Tally g} {m p q d : Fin g.size} {asked : List (Fin g.size)}

/-- the tally counts what the asked modules lead to, and no less than the demand -/
structure Accounted (t : Tally g) (asked : List (Fin g.size)) : Prop where
  exists_asked : ∀ m, t.count m ≠ 0 → ∃ r ∈ asked, ReflTransGen g.Uses r m
  demand_add_le : ∀ m, t.demand m + (if m ∈ asked then 1 else 0) ≤ t.count m

namespace Accounted

/-! ## keeping account -/

theorem empty : (∅ : Tally g).Accounted [] where
  exists_asked m hm := absurd (count_empty m) hm
  demand_add_le m := by simp [demand_empty]

theorem visitAll (h : t.Accounted asked) (stack : List (Fin g.size)) :
    (t.visitAll stack).Accounted (stack ++ asked) where
  exists_asked m hm := by
    rcases count_visitAll_ne_zero_iff.1 hm with hm | hm
    · obtain ⟨r, hr, hrm⟩ := h.exists_asked m hm
      exact ⟨r, List.mem_append_right _ hr, hrm⟩
    · obtain ⟨r, hr, hrm⟩ := (mem_opened_iff_opens.1 hm).exists_root
      exact ⟨r, List.mem_append_left _ hr, hrm⟩
  demand_add_le m := by
    have hle := h.demand_add_le m
    have hlaw := count_add_demand t stack m
    by_cases hm : m ∈ stack
    · have := List.count_pos_iff.2 hm
      rw [if_pos (List.mem_append_left _ hm)]
      omega
    · simp only [List.mem_append, hm, false_or]
      omega

theorem visit (h : t.Accounted asked) (m : Fin g.size) : (t.visit m).Accounted (m :: asked) :=
  h.visitAll [m]

theorem mono (h : t.Accounted asked) (hle : ∀ m, t.count m ≤ u.count m)
    (hne : ∀ m, u.count m ≠ 0 → t.count m ≠ 0) : u.Accounted asked where
  exists_asked m hm := h.exists_asked m (hne m hm)
  demand_add_le m := by
    have hd : u.demand m = t.demand m := by
      have hiff : ∀ p, u.count p ≠ 0 ↔ t.count p ≠ 0 := fun p =>
        ⟨hne p, fun hp => by have := hle p; omega⟩
      simp only [demand, hiff]
    rw [hd]
    exact (h.demand_add_le m).trans (hle m)

theorem promote (h : t.Accounted asked) {ms : List (Fin g.size)}
    (hms : ∀ m ∈ ms, t.count m ≠ 0) : (t.promote ms).Accounted asked := by
  refine h.mono (count_le_count_promote t ms) fun m hm => ?_
  rw [count_promote] at hm
  by_cases hmem : m ∈ ms
  · exact hms m hmem
  · rwa [if_neg hmem] at hm

/-! ## what the account says -/

section
variable (h : t.Accounted asked)
include h

theorem count_ne_zero_of_uses (hp : t.count p ≠ 0) (hpd : g.Uses p d) : t.count d ≠ 0 := by
  have hd : 0 < t.demand d := Finset.card_pos.2 ⟨p, by simp [hp, hpd]⟩
  have := h.demand_add_le d
  omega

theorem count_ne_zero_of_reflTransGen (hp : t.count p ≠ 0) (hpd : ReflTransGen g.Uses p d) :
    t.count d ≠ 0 := by
  induction hpd with
  | refl => exact hp
  | tail _ hd ih => exact h.count_ne_zero_of_uses ih hd

theorem count_ne_zero_of_asked (hm : m ∈ asked) : t.count m ≠ 0 := by
  have := h.demand_add_le m
  rw [if_pos hm] at this
  omega

/-- a module that counts less than two has one user at most -/
theorem user_unique (hd : t.count d < 2) (hp : t.count p ≠ 0) (hq : t.count q ≠ 0)
    (hpd : g.Uses p d) (hqd : g.Uses q d) : p = q := by
  by_contra hne
  have hc : 1 < t.demand d := Finset.one_lt_card.2 ⟨p, by simp [hp, hpd], q, by simp [hq, hqd], hne⟩
  have := h.demand_add_le d
  omega

theorem two_le_of_asked (hd : d ∈ asked) (hp : t.count p ≠ 0) (hpd : g.Uses p d) :
    2 ≤ t.count d := by
  have hc : 0 < t.demand d := Finset.card_pos.2 ⟨p, by simp [hp, hpd]⟩
  have := h.demand_add_le d
  rw [if_pos hd] at this
  omega

/-- **Every circle of counted modules has a service in it.** -/
theorem exists_two_le_of_isCycle {c : List (Fin g.size)} (hc : g.IsCycle c)
    (hne : ∀ x ∈ c, t.count x ≠ 0) : ∃ x ∈ c, 2 ≤ t.count x := by
  by_contra hlow
  have hlt : ∀ x ∈ c, t.count x < 2 := fun x hx => by
    by_contra hx2
    exact hlow ⟨x, hx, Nat.le_of_not_lt hx2⟩
  -- a way into the circle comes from inside, since each module of it has its user there
  have back : ∀ {r x}, t.count r ≠ 0 → ReflTransGen g.Uses r x → x ∈ c → r ∈ c := by
    intro r x hr hrx
    induction hrx with
    | refl => exact id
    | @tail y z hry hyz ih =>
      intro hz
      obtain ⟨p, hpc, hpz⟩ := hc.exists_user hz
      have hy := h.count_ne_zero_of_reflTransGen hr hry
      rw [h.user_unique (hlt z hz) hy (hne p hpc) hyz hpz] at ih
      exact ih hpc
  obtain ⟨x, hx⟩ : ∃ x, x ∈ c := by
    cases c with
    | nil => exact hc.elim
    | cons a l => exact ⟨a, List.mem_cons_self⟩
  obtain ⟨r, hr, hrx⟩ := h.exists_asked x (hne x hx)
  have hrc := back (h.count_ne_zero_of_asked hr) hrx hx
  obtain ⟨p, hpc, hpr⟩ := hc.exists_user hrc
  have := h.two_le_of_asked hr (hne p hpc) hpr
  have := hlt r hrc
  omega

theorem not_circles (hm : t.count m ≠ 0) : ¬ t.Circles m := by
  rintro ⟨c, hc, hlow, x, hx, hmx⟩
  have hxne : t.count x ≠ 0 :=
    h.count_ne_zero_of_reflTransGen hm (reflTransGen_uses hmx)
  obtain ⟨y, hy, hy2⟩ := h.exists_two_le_of_isCycle hc fun y hy =>
    h.count_ne_zero_of_reflTransGen hxne (hc.reflTransGen hx hy)
  have := hlow y hy
  omega

end

end Accounted

end Tally

end ServiceBoundary
