/-!
# First occurrences

Where a list of names may repeat itself, the first of equal entries counts and the others are
dropped.

* `List.eraseDups` is what is kept; `nodup_eraseDups` says that it holds nothing twice;
* `repeats l` is what is dropped: the entries of `l` that equal an earlier one, in order;
* `repeats_eq_nil_iff` says that nothing is dropped exactly from a list without repetition.
-/

namespace ServiceBoundary

section
variable {α : Type} [BEq α] [LawfulBEq α]

theorem nodup_eraseDups (l : List α) : l.eraseDups.Nodup := by
  -- the tail is filtered before it is treated, so the recursion is on the length
  induction h : l.length using Nat.strongRecOn generalizing l with
  | _ n ih =>
    cases l with
    | nil => simp
    | cons a l =>
      rw [List.eraseDups_cons, List.nodup_cons]
      refine ⟨fun hm => ?_, ih _ ?_ _ rfl⟩
      · simp [List.mem_eraseDups] at hm
      · have := List.length_filter_le (fun b => !b == a) l
        simp only [List.length_cons] at h
        omega

/-- the entries that equal an earlier one, in order -/
def repeats (l : List α) : List α :=
  go [] l
where
  /-- the entries of the list that equal an earlier one or one of `seen` -/
  go (seen : List α) : List α → List α
    | [] => []
    | a :: l => if seen.contains a then a :: go seen l else go (a :: seen) l

theorem repeats.go_eq_nil_iff (seen l : List α) :
    repeats.go seen l = [] ↔ l.Nodup ∧ ∀ a ∈ l, a ∉ seen := by
  induction l generalizing seen with
  | nil => simp [repeats.go]
  | cons a l ih =>
    by_cases h : a ∈ seen
    · simp [repeats.go, h]
    · simp only [repeats.go, List.contains_iff_mem, h, if_false, ih, List.mem_cons,
        List.nodup_cons, forall_eq_or_imp, not_false_eq_true, true_and]
      constructor
      · rintro ⟨hn, hl⟩
        exact ⟨⟨fun ha => (hl a ha) (Or.inl rfl), hn⟩, fun b hb hs => hl b hb (Or.inr hs)⟩
      · rintro ⟨⟨ha, hn⟩, hl⟩
        refine ⟨hn, fun b hb => ?_⟩
        rintro (rfl | hs)
        · exact ha hb
        · exact hl b hb hs

theorem repeats_eq_nil_iff (l : List α) : repeats l = [] ↔ l.Nodup := by
  simp [repeats, repeats.go_eq_nil_iff]

end

end ServiceBoundary
