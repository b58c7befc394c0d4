import Mathlib.Data.List.TakeWhile
import ServiceBoundary.Path

/-!
# Absolute paths and the directory above

A path is read as the names between its separators; the empty part and `.` name nothing. Going to
the directory above takes the last name away, with all that stands behind it and the separators in
front of it, so what is left is a start of the path. An absolute path stays absolute: its first
separator is never taken. Only a path without a name has no directory above.

* `Path.names`         the names of a path;
* `namesOf_append`     names of two paths with a separator between them;
* `namesOf_strip`      what `strip` takes away names nothing;
* `parent?_cases`      the directory above an absolute path;
* `join_of_isAbsolute`, `join_of_relative`   a path seen from a directory.
-/

namespace ServiceBoundary.Path

variable {p base : String} {cs ds part : List Char}

/-- whether a part of a path names something -/
def isName (part : List Char) : Bool := part ≠ [] && part ≠ ['.']

def namesOf (cs : List Char) : List (List Char) := (split cs).filter isName

/-- what the parts of a path name, in order -/
def names (p : String) : List (List Char) := namesOf p.toList

/-! ## names -/

theorem split_slash (cs : List Char) : split ('/' :: cs) = [] :: split cs := rfl

theorem split_cons_of_ne {c : Char} (h : c ≠ '/') (cs : List Char) :
    ∃ part parts, split cs = part :: parts ∧ split (c :: cs) = (c :: part) :: parts := by
  rw [split, if_neg h]
  cases hs : split cs with
  | nil =>
    exfalso
    cases cs with
    | nil => cases hs
    | cons d ds =>
      rw [split] at hs
      split at hs
      · cases hs
      · split at hs <;> cases hs
  | cons part parts => exact ⟨part, parts, rfl, rfl⟩

theorem split_append (cs ds : List Char) : split (cs ++ '/' :: ds) = split cs ++ split ds := by
  induction cs with
  | nil => rfl
  | cons c cs ih =>
    by_cases hc : c = '/'
    · subst hc
      rw [List.cons_append, split_slash, split_slash, ih, List.cons_append]
    · obtain ⟨part, parts, hparts, hcons⟩ := split_cons_of_ne hc cs
      obtain ⟨part', parts', hparts', hcons'⟩ := split_cons_of_ne hc (cs ++ '/' :: ds)
      rw [ih, hparts] at hparts'
      obtain ⟨rfl, rfl⟩ := List.cons.inj hparts'
      rw [hcons]
      exact hcons'

theorem split_of_not_mem (h : '/' ∉ cs) : split cs = [cs] := by
  induction cs with
  | nil => rfl
  | cons c cs ih =>
    have hc : c ≠ '/' := fun hc => h (hc ▸ List.mem_cons_self)
    obtain ⟨part, parts, hparts, hcons⟩ := split_cons_of_ne hc cs
    rw [ih fun hmem => h (List.mem_cons_of_mem _ hmem)] at hparts
    obtain ⟨rfl, rfl⟩ := List.cons.inj hparts
    exact hcons

theorem namesOf_nil : namesOf [] = [] := rfl

theorem namesOf_append (cs ds : List Char) :
    namesOf (cs ++ '/' :: ds) = namesOf cs ++ namesOf ds := by
  rw [namesOf, split_append, List.filter_append]
  rfl

theorem namesOf_of_isName (hname : isName part = true) (h : '/' ∉ part) :
    namesOf part = [part] := by
  rw [namesOf, split_of_not_mem h, List.filter_cons_of_pos hname]
  rfl

/-! ## the end of a path, in reverse -/

theorem strip_suffix (cs : List Char) : strip cs <:+ cs := by
  fun_induction strip cs with
  | case1 cs ih => exact ih.trans (List.suffix_cons _ _)
  | case2 cs ih => exact ih.trans ((List.suffix_cons _ _).trans (List.suffix_cons _ _))
  | case3 => exact List.nil_suffix
  | case4 cs => exact List.suffix_rfl

theorem strip_ne_dot {rest : List Char} : strip cs ≠ '.' :: '/' :: rest := by
  fun_induction strip cs with
  | case1 cs ih => exact ih
  | case2 cs ih => exact ih
  | case3 => simp
  | case4 cs _ h _ => exact fun hc => h rest hc

theorem strip_ne_lone_dot : strip cs ≠ ['.'] := by
  fun_induction strip cs with
  | case1 cs ih => exact ih
  | case2 cs ih => exact ih
  | case3 => simp
  | case4 cs _ _ h => exact h

/-- What is taken away at the end of a path names nothing. -/
theorem namesOf_strip (cs : List Char) : namesOf (strip cs).reverse = namesOf cs.reverse := by
  fun_induction strip cs with
  | case1 cs ih =>
    rw [ih, List.reverse_cons, namesOf_append, namesOf_nil, List.append_nil]
  | case2 cs ih =>
    have hsplit : ('.' :: '/' :: cs).reverse = cs.reverse ++ '/' :: ['.'] := by simp
    rw [ih, hsplit, namesOf_append]
    show namesOf cs.reverse = namesOf cs.reverse ++ []
    rw [List.append_nil]
  | case3 => rfl
  | case4 cs => rfl

/-- A path is what stands before its last separator, and the part behind it. -/
theorem namesOf_reverse (h : isName (cs.takeWhile (· ≠ '/')).reverse = true) :
    namesOf cs.reverse =
      namesOf (cs.dropWhile (· ≠ '/')).reverse ++ [(cs.takeWhile (· ≠ '/')).reverse] := by
  have hfree : '/' ∉ (cs.takeWhile (· ≠ '/')).reverse := by
    intro hmem
    have hne := List.mem_takeWhile_imp (List.mem_reverse.1 hmem)
    simp at hne
  have hwhole := List.takeWhile_append_dropWhile (p := (· ≠ '/')) (l := cs)
  have hreverse : cs.reverse =
      (cs.dropWhile (· ≠ '/')).reverse ++ (cs.takeWhile (· ≠ '/')).reverse := by
    rw [← List.reverse_append, hwhole]
  rw [hreverse]
  cases hdrop : cs.dropWhile (· ≠ '/') with
  | nil => exact namesOf_of_isName h hfree
  | cons c ds =>
    have hc : c = '/' := by
      have hhead := List.head?_dropWhile_not (· ≠ '/') cs
      rw [hdrop] at hhead
      simpa using hhead
    rw [hc, List.reverse_cons, List.append_assoc, List.singleton_append, namesOf_append,
      namesOf_append, namesOf_of_isName h hfree, namesOf_nil, List.append_nil]

theorem isName_last (h : strip cs ≠ []) :
    isName ((strip cs).takeWhile (· ≠ '/')).reverse = true := by
  cases hs : strip cs with
  | nil => exact absurd hs h
  | cons c tail =>
    have hc : c ≠ '/' := fun hc => strip_ne_slash (hc ▸ hs)
    rw [List.takeWhile_cons_of_pos (by simpa using hc)]
    have hdot : (c :: tail.takeWhile (· ≠ '/')).reverse ≠ ['.'] := by
      intro hdot
      rw [List.reverse_eq_iff] at hdot
      obtain ⟨rfl, hnil⟩ := List.cons.inj hdot
      cases tail with
      | nil => exact strip_ne_lone_dot hs
      | cons d tail =>
        by_cases hd : d = '/'
        · exact strip_ne_dot (hd ▸ hs)
        · rw [List.takeWhile_cons_of_pos (by simpa using hd)] at hnil
          cases hnil
    have hempty : (c :: tail.takeWhile (· ≠ '/')).reverse ≠ [] := by simp
    rw [isName, decide_eq_true hdot, decide_eq_true hempty]
    rfl

/-! ## the directory above -/

theorem isAbsolute_iff : isAbsolute p = true ↔ ∃ cs, p.toList = '/' :: cs := by
  unfold isAbsolute
  cases p.toList with
  | nil => simp
  | cons c cs => simp

theorem parentOf_slash (cs : List Char) : parentOf ('/' :: cs) =
    if strip cs.reverse = [] then none
    else some ('/' :: (strip ((strip cs.reverse).dropWhile (· ≠ '/'))).reverse) := by
  have hlead : lead ('/' :: cs) = ['/'] := rfl
  have hdrop : ('/' :: cs).drop (lead ('/' :: cs)).length = cs := rfl
  rw [parentOf, hdrop, hlead]
  split
  · next hs =>
    rw [if_pos hs]
    exact if_neg (by decide)
  · next hs => exact (if_neg hs).symm

/-- **The directory above an absolute path** has all its names but the last one; it is absolute and
a start of the path. A path without it names nothing. -/
theorem parent?_cases (h : isAbsolute p = true) :
    parent? p = none ∧ names p = [] ∨
    ∃ up name, parent? p = some up ∧ isAbsolute up = true ∧ names p = names up ++ [name] ∧
      up.toList <+: p.toList := by
  obtain ⟨cs, hcs⟩ := isAbsolute_iff.1 h
  have hnames : names p = namesOf (strip cs.reverse).reverse := by
    rw [namesOf_strip, List.reverse_reverse, names, hcs]
    rfl
  rw [parent?, hcs, parentOf_slash]
  by_cases hs : strip cs.reverse = []
  · rw [if_pos hs, hnames, hs]
    exact .inl ⟨rfl, rfl⟩
  · rw [if_neg hs]
    refine .inr ⟨_, ((strip cs.reverse).takeWhile (· ≠ '/')).reverse, rfl, ?_, ?_, ?_⟩
    · exact isAbsolute_iff.2 ⟨_, String.toList_ofList⟩
    · rw [hnames, namesOf_reverse (isName_last hs), names, String.toList_ofList]
      show _ = namesOf (strip _).reverse ++ _
      rw [namesOf_strip]
    · -- in reverse, what is taken away comes first
      rw [String.toList_ofList, List.prefix_cons_inj, ← List.reverse_suffix, List.reverse_reverse]
      exact (strip_suffix _).trans ((List.dropWhile_suffix _).trans (strip_suffix _))

example : parent? "/a//b/./" = some "/a" := by decide +kernel

/-! ## paths seen from a directory -/

theorem join_of_isAbsolute (h : isAbsolute p = true) (base : String) : join base p = p := by
  rw [join, h, Bool.true_or, if_pos rfl]

theorem join_of_relative (hbase : isAbsolute base = true) (h : isAbsolute p = false) :
    join base p = base ++ (if base.toList.getLast? = some '/' then "" else "/") ++ p := by
  have hne : base.isEmpty = false := by
    obtain ⟨cs, hcs⟩ := isAbsolute_iff.1 hbase
    rw [Bool.eq_false_iff]
    intro hempty
    rw [String.isEmpty_iff.1 hempty] at hcs
    cases hcs
  rw [join, h, hne, Bool.or_self, if_neg Bool.false_ne_true]
  split_ifs with hend hend'
  · rw [String.append_empty]
  · exact absurd (by simpa using hend) hend'
  · exact absurd (by simpa using ‹base.toList.getLast? = some '/'›) hend
  · rfl

theorem isAbsolute_join (hbase : isAbsolute base = true) (p : String) :
    isAbsolute (join base p) = true := by
  cases h : isAbsolute p with
  | true => rw [join_of_isAbsolute h, h]
  | false =>
    obtain ⟨cs, hcs⟩ := isAbsolute_iff.1 hbase
    rw [join_of_relative hbase h, isAbsolute_iff, String.toList_append, String.toList_append, hcs]
    exact ⟨_, rfl⟩

end ServiceBoundary.Path
