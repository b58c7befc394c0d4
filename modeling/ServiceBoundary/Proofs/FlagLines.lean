import Mathlib
import ServiceBoundary.Engines
import ServiceBoundary.Fragment.MakeFlags
import ServiceBoundary.Manifest
import ServiceBoundary.ModuleGraph.Link

/-!
# Make fragments read back

Flags go into the make fragment as they are, each behind a separator: a blank and the mark of flags.
So the fragment has as many lines as the flags make, and a flag that holds a separator looks like
two flags. What can be read off the fragment is where separators start, and this gives all flags,
each of them cut where a separator starts in it. Such a cut goes wrong only if a separator starts in
a flag and ends in the separator behind it. Without blanks in the flag, or without blanks in the
mark, that cannot be.

* `pieces`, `flatMap_pieces`    a text cut at its separators, and made of its pieces again;
* `Fits`, `pieces_append`       the pieces of two texts with a separator between them;
* `readFlags_makeFlags`         what is read off a fragment;
* `flags_run_on`                manifests with flags that break the line or look like other flags;
* `flags_are_read_back`         one line and the same flags, where no flag does this.
-/

namespace ServiceBoundary.Fragment

/-! ## texts cut at separators -/

/-- what stands before each flag -/
def separator (style : Style) : List Char := ' ' :: style.flagMark.toList

/-- a text cut wherever a separator starts, from the left -/
def pieces (style : Style) : List Char → List (List Char)
  | [] => [[]]
  | c :: cs =>
    match (c :: cs).dropPrefix? (separator style) with
    | some rest => if rest.length ≤ cs.length then [] :: pieces style rest else []
    | none => (pieces style cs).modifyHead (c :: ·)
termination_by cs => cs.length

section
variable {style : Style} {cs rest sep a f : List Char} {c : Char}

theorem dropPrefix?_eq_some_iff : cs.dropPrefix? sep = some rest ↔ cs = sep ++ rest := by
  simp [List.dropPrefix?_eq_some_iff]

theorem dropPrefix?_eq_none (h : ¬ sep <+: cs) : cs.dropPrefix? sep = none := by
  cases heq : cs.dropPrefix? sep with
  | none => rfl
  | some rest => exact absurd ⟨rest, (dropPrefix?_eq_some_iff.1 heq).symm⟩ h

theorem pieces_nil : pieces style [] = [[]] := by
  rw [pieces]

theorem pieces_separator : pieces style (separator style ++ cs) = [] :: pieces style cs := by
  have hdrop : (separator style ++ cs).dropPrefix? (separator style) = some cs :=
    dropPrefix?_eq_some_iff.2 rfl
  have hlength : cs.length ≤ (style.flagMark.toList ++ cs).length := by simp
  change (' ' :: (style.flagMark.toList ++ cs)).dropPrefix? (separator style) = _ at hdrop
  change pieces style (' ' :: (style.flagMark.toList ++ cs)) = _
  rw [pieces, hdrop]
  exact if_pos hlength

theorem pieces_cons (h : ¬ separator style <+: c :: cs) :
    pieces style (c :: cs) = (pieces style cs).modifyHead (c :: ·) := by
  rw [pieces, dropPrefix?_eq_none h]

@[elab_as_elim]
theorem pieces_induction {motive : List Char → Prop} (style : Style) (nil : motive [])
    (separator : ∀ cs, motive cs → motive (separator style ++ cs))
    (char : ∀ c cs, ¬ Fragment.separator style <+: c :: cs → motive cs → motive (c :: cs))
    (cs : List Char) : motive cs := by
  induction hlength : cs.length using Nat.strongRecOn generalizing cs with
  | _ n ih =>
    cases cs with
    | nil => exact nil
    | cons c cs =>
      by_cases h : Fragment.separator style <+: c :: cs
      · obtain ⟨rest, hrest⟩ := h
        rw [← hrest] at hlength ⊢
        refine separator rest (ih rest.length ?_ rest rfl)
        simp only [Fragment.separator, List.length_append, List.length_cons] at hlength
        omega
      · refine char c cs h (ih cs.length ?_ cs rfl)
        simp only [List.length_cons] at hlength
        omega

theorem exists_pieces_eq_cons (style : Style) (cs : List Char) :
    ∃ p ps, pieces style cs = p :: ps := by
  induction cs using pieces_induction style with
  | nil => exact ⟨_, _, pieces_nil⟩
  | separator cs _ => exact ⟨_, _, pieces_separator⟩
  | char c cs h ih =>
    obtain ⟨p, ps, hps⟩ := ih
    rw [pieces_cons h, hps]
    exact ⟨_, _, rfl⟩

/-- **The pieces make the text again.** -/
theorem flatMap_pieces (style : Style) (cs : List Char) :
    (pieces style cs).flatMap (separator style ++ ·) = separator style ++ cs := by
  induction cs using pieces_induction style with
  | nil => simp [pieces_nil]
  | separator cs ih => rw [pieces_separator, List.flatMap_cons, ih, List.append_nil]
  | char c cs h ih =>
    obtain ⟨p, ps, hps⟩ := exists_pieces_eq_cons style cs
    rw [hps, List.flatMap_cons, List.append_assoc] at ih
    rw [pieces_cons h, hps, List.modifyHead_cons, List.flatMap_cons, List.append_assoc,
      List.cons_append, List.append_cancel_left ih]

theorem pieces_eq_singleton_iff : pieces style cs = [cs] ↔ ¬ separator style <:+: cs := by
  induction cs using pieces_induction style with
  | nil => simp [pieces_nil, separator]
  | separator cs _ =>
    obtain ⟨p, ps, hps⟩ := exists_pieces_eq_cons style cs
    rw [pieces_separator, hps]
    refine iff_of_false ?_ (not_not_intro (List.prefix_append _ _).isInfix)
    rintro ⟨⟩
  | char c cs h ih =>
    obtain ⟨p, ps, hps⟩ := exists_pieces_eq_cons style cs
    rw [pieces_cons h, List.infix_cons_iff, or_iff_right h, ← ih, hps, List.modifyHead_cons]
    simp

/-- no separator starts in the flag and ends in the separator behind it -/
def Fits (style : Style) (f : List Char) : Prop :=
  ∀ a, a <:+ f → a ≠ [] → separator style <+: a ++ separator style → separator style <+: a

theorem Fits.of_suffix (h : Fits style f) (ha : a <:+ f) : Fits style a :=
  fun b hb => h b (hb.trans ha)

theorem fits_of_not_mem (h : ' ' ∉ f) : Fits style f := by
  intro a ha hne hstarts
  obtain ⟨c, a, rfl⟩ := List.exists_cons_of_ne_nil hne
  obtain ⟨rfl, -⟩ := List.cons_prefix_cons.1 hstarts
  exact absurd (ha.mem List.mem_cons_self) h

theorem fits_of_not_mem_flagMark (h : ' ' ∉ style.flagMark.toList) (f : List Char) :
    Fits style f := by
  intro a _ hne hstarts
  rcases List.prefix_or_prefix_of_prefix hstarts (List.prefix_append a _) with ha | ⟨b, hb⟩
  · exact ha
  · rw [← hb, List.prefix_append_right_inj] at hstarts
    cases b with
    | nil =>
      rw [List.append_nil] at hb
      exact hb ▸ List.prefix_rfl
    | cons d b =>
      obtain ⟨c, a, rfl⟩ := List.exists_cons_of_ne_nil hne
      obtain ⟨rfl, -⟩ := List.cons_prefix_cons.1 hstarts
      obtain ⟨rfl, hmark⟩ := List.cons.inj hb
      rw [← hmark] at h
      simp at h

/-- The pieces of a text before a separator are pieces of the whole. -/
theorem pieces_append (h : Fits style f) (more : List Char) :
    pieces style (f ++ (separator style ++ more)) = pieces style f ++ pieces style more := by
  induction f using pieces_induction style with
  | nil => rw [List.nil_append, pieces_separator, pieces_nil, List.singleton_append]
  | separator cs ih =>
    rw [List.append_assoc, pieces_separator, pieces_separator,
      ih (h.of_suffix (List.suffix_append _ _)), List.cons_append]
  | char c cs hstarts ih =>
    have hnot : ¬ separator style <+: c :: (cs ++ (separator style ++ more)) := by
      intro hmore
      have hwhole :
          c :: (cs ++ (separator style ++ more)) = (c :: cs ++ separator style) ++ more := by
        simp
      rw [hwhole] at hmore
      refine hstarts (h _ List.suffix_rfl (List.cons_ne_nil c cs) ?_)
      exact List.prefix_of_prefix_length_le hmore (List.prefix_append _ _) (by
        rw [List.length_append]
        omega)
    obtain ⟨p, ps, hps⟩ := exists_pieces_eq_cons style cs
    rw [List.cons_append, pieces_cons hnot, pieces_cons hstarts,
      ih (h.of_suffix (List.suffix_cons c cs)), hps]
    rfl

theorem pieces_flatMap {fs : List (List Char)} (hfs : ∀ f ∈ fs, Fits style f)
    (h : Fits style f) :
    pieces style (f ++ fs.flatMap (separator style ++ ·)) =
      pieces style f ++ fs.flatMap (pieces style) := by
  induction fs generalizing f with
  | nil => simp
  | cons g fs ih =>
    obtain ⟨hg, hfs⟩ := List.forall_mem_cons.1 hfs
    rw [List.flatMap_cons, List.flatMap_cons, List.append_assoc, pieces_append h, ih hfs hg]

end

/-! ## the fragment of a plan -/

/-- the first line of a fragment, and one more line -/
def OneLine (style : Style) (plan : ServicePlan) : Prop :=
  ∃ line : String, makeFlags style plan = header "#" ++ line ++ "\n" ∧ '\n' ∉ line.toList

/-- a flag cut wherever a separator starts in it -/
def split (style : Style) (flag : String) : List String :=
  (pieces style flag.toList).map String.ofList

/-- what the assignment of a fragment says, cut wherever a separator starts -/
def readFlags (style : Style) (text : String) : Option (List String) :=
  (text.toList.dropPrefix? (header "#" ++ "RUSTFLAGS +=").toList).map fun rest =>
    (pieces style rest.dropLast).tail.map String.ofList

variable {style : Style} {plan plan' : ServicePlan}

theorem toList_makeFlags (style : Style) (plan : ServicePlan) :
    (makeFlags style plan).toList = (header "#" ++ "RUSTFLAGS +=").toList ++
      (plan.allFlags.flatMap (fun f => separator style ++ f.toList) ++ ['\n']) := by
  simp [makeFlags, String.toList_join, List.flatMap_map, separator]

theorem oneLine_of_not_mem (hmark : '\n' ∉ style.flagMark.toList)
    (hflags : ∀ f ∈ plan.allFlags, '\n' ∉ f.toList) : OneLine style plan := by
  refine ⟨"RUSTFLAGS +=" ++ String.join (plan.allFlags.map fun f => " " ++ style.flagMark ++ f),
    ?_, ?_⟩
  · unfold makeFlags
    simp only [String.append_assoc]
  · rw [String.toList_append, String.toList_join, List.mem_append, List.mem_flatMap]
    rintro (hstart | ⟨text, htext, hbreak⟩)
    · revert hstart
      decide
    · obtain ⟨f, hf, rfl⟩ := List.mem_map.1 htext
      rw [String.toList_append, String.toList_append, List.mem_append, List.mem_append] at hbreak
      rcases hbreak with (hblank | hbreak) | hbreak
      · revert hblank
        decide
      · exact hmark hbreak
      · exact hflags f hf hbreak

theorem split_eq_singleton_iff {flag : String} :
    split style flag = [flag] ↔ ¬ separator style <:+: flag.toList := by
  unfold split
  rw [← pieces_eq_singleton_iff, List.map_eq_singleton_iff]
  constructor
  · rintro ⟨cs, hcs, rfl⟩
    rw [hcs, String.toList_ofList]
  · intro h
    exact ⟨_, h, String.ofList_toList⟩

theorem readFlags_makeFlags (h : ∀ f ∈ plan.allFlags, Fits style f.toList) :
    readFlags style (makeFlags style plan) = some (plan.allFlags.flatMap (split style)) := by
  have hfits : ∀ f ∈ plan.allFlags.map String.toList, Fits style f := by
    rw [List.forall_mem_map]
    exact h
  have hpieces := pieces_flatMap hfits (fits_of_not_mem List.not_mem_nil)
  rw [List.nil_append, pieces_nil, List.flatMap_map, List.flatMap_map] at hpieces
  unfold readFlags
  rw [toList_makeFlags, dropPrefix?_eq_some_iff.2 rfl, Option.map_some, List.dropLast_concat,
    hpieces, List.singleton_append, List.tail_cons, List.map_flatMap]
  rfl

theorem flatMap_split (style : Style) (flags : List String) :
    (flags.flatMap (split style)).flatMap (fun f => separator style ++ f.toList) =
      flags.flatMap fun f => separator style ++ f.toList := by
  rw [List.flatMap_assoc]
  refine List.flatMap_congr fun f _ => ?_
  unfold split
  rw [List.flatMap_map]
  simp only [String.toList_ofList]
  exact flatMap_pieces style f.toList

/-- **Flags with the same pieces make the same text**, whatever they are. -/
theorem makeFlags_congr
    (h : plan.allFlags.flatMap (split style) = plan'.allFlags.flatMap (split style)) :
    makeFlags style plan = makeFlags style plan' := by
  rw [← String.toList_inj, toList_makeFlags, toList_makeFlags, ← flatMap_split, h, flatMap_split]

/-- the flag holds no separator, and it ends none -/
def Apart (style : Style) (f : String) : Prop :=
  Fits style f.toList ∧ ¬ separator style <:+: f.toList

theorem apart_of_not_mem {f : String} (h : ' ' ∉ f.toList) : Apart style f := by
  refine ⟨fits_of_not_mem h, fun hholds => h (hholds.subset ?_)⟩
  exact List.mem_cons_self

theorem readFlags_of_apart (h : ∀ f ∈ plan.allFlags, Apart style f) :
    readFlags style (makeFlags style plan) = some plan.allFlags := by
  have hsplit : plan.allFlags.flatMap (split style) = plan.allFlags.flatMap fun f => [f] :=
    List.flatMap_congr fun f hf => split_eq_singleton_iff.2 (h f hf).2
  rw [readFlags_makeFlags fun f hf => (h f hf).1, hsplit, List.flatMap_singleton']

/-! ## flags that run on -/

/-- the plan of a manifest for some roots -/
def planned? (source : String) (names : List String) : Option ServicePlan := do
  let manifest ← (Manifest.parse source).toOption
  let g ← (ModuleGraph.link manifest.tasks).toOption
  let t ← (Tally.ofRoots g names).toOption
  (t.plan manifest.policy).toOption

/-- a plan of one service with these flags -/
def lone (flags : List String) : ServicePlan :=
  ⟨[{ name := "a", source := "f", resources := {}, flags }]⟩

/-- Flags may hold line ends, which break the line, and blanks with a mark, which look like the
start of another flag. -/
theorem flags_run_on :
    ∃ broken joined parted : ServicePlan,
      planned? "tasks=[\x7bname=\"a\",file=\"f\",cfg=[\"x\\ny\"]\x7d]" ["a"] = some broken ∧
      planned? "tasks=[\x7bname=\"a\",file=\"f\",cfg=[\"x --cfg=y\"]\x7d]" ["a"] = some joined ∧
      planned? "tasks=[\x7bname=\"a\",file=\"f\",cfg=[\"x\",\"y\"]\x7d]" ["a"] = some parted ∧
      '\n' ∉ ({} : Style).flagMark.toList ∧ ¬ OneLine {} broken ∧
      joined.allFlags ≠ parted.allFlags ∧ makeFlags {} joined = makeFlags {} parted := by
  refine ⟨lone ["x\ny"], lone ["x --cfg=y"], lone ["x", "y"], by cbv, by cbv, by cbv, by decide,
    ?_, by decide, ?_⟩
  · rintro ⟨line, htext, hline⟩
    have hcount := congrArg (fun s => s.toList.count '\n') htext
    have hbreaks : (makeFlags {} (lone ["x\ny"])).toList.count '\n' = 3 := by decide +kernel
    have hheader : (header "#").toList.count '\n' = 1 := by decide
    simp only [String.toList_append, List.count_append, hbreaks, hheader,
      List.count_eq_zero.2 hline] at hcount
    revert hcount
    decide
  · decide +kernel

/-- **Flags are read back.** If no flag holds a line end, a fragment is its first line and one line
more. If no flag holds a separator or could end one, all flags can be read off the fragment, and
other flags make another text. Without blanks in the mark of flags it is enough that no flag holds a
separator, and with any mark that no flag holds a blank. Of flags that only end no separator the
fragment tells their pieces, and nothing else. -/
theorem flags_are_read_back (style : Style) :
    ('\n' ∉ style.flagMark.toList → ∀ plan, (∀ f ∈ plan.allFlags, '\n' ∉ f.toList) →
      OneLine style plan) ∧
    (∀ plan, (∀ f ∈ plan.allFlags, Apart style f) →
      readFlags style (makeFlags style plan) = some plan.allFlags) ∧
    (∀ plan plan', (∀ f ∈ plan.allFlags, Apart style f) → (∀ f ∈ plan'.allFlags, Apart style f) →
      plan.allFlags ≠ plan'.allFlags → makeFlags style plan ≠ makeFlags style plan') ∧
    (∀ plan plan', (∀ f ∈ plan.allFlags, Fits style f.toList) →
      (∀ f ∈ plan'.allFlags, Fits style f.toList) →
      (makeFlags style plan = makeFlags style plan' ↔
        plan.allFlags.flatMap (split style) = plan'.allFlags.flatMap (split style))) ∧
    (∀ f, ' ' ∉ f.toList → Apart style f) ∧
    (' ' ∉ style.flagMark.toList →
      ∀ f, Fits style f.toList ∧ (Apart style f ↔ ¬ separator style <:+: f.toList)) ∧
    ∀ f, split style f = [f] ↔ ¬ separator style <:+: f.toList := by
  refine ⟨fun hmark plan => oneLine_of_not_mem hmark, fun plan => readFlags_of_apart, ?_, ?_,
    fun f => apart_of_not_mem, ?_, fun f => split_eq_singleton_iff⟩
  · intro plan plan' hplan hplan' hne htext
    have hread := readFlags_of_apart hplan
    rw [htext, readFlags_of_apart hplan'] at hread
    exact hne (Option.some.inj hread).symm
  · intro plan plan' hplan hplan'
    refine ⟨fun htext => ?_, makeFlags_congr⟩
    have hread := readFlags_makeFlags hplan
    rw [htext, readFlags_makeFlags hplan'] at hread
    exact (Option.some.inj hread).symm
  · intro hmark f
    have hfits := fits_of_not_mem_flagMark hmark f.toList
    exact ⟨hfits, and_iff_right hfits⟩

/-- blanks do no harm where no mark is behind them -/
theorem flags_of_words :
    OneLine {} (lone ["x y", ""]) ∧
      readFlags {} (makeFlags {} (lone ["x y", ""])) = some ["x y", ""] ∧
      makeFlags {} (lone ["x y", ""]) ≠ makeFlags {} (lone ["x", "y"]) ∧
      (lone ["x --cfg=y"]).allFlags.flatMap (split {}) =
        (lone ["x", "y"]).allFlags.flatMap (split {}) := by
  obtain ⟨hline, hread, hne, hsame, hword, hmark, -⟩ := flags_are_read_back {}
  have hapart : ∀ f ∈ (lone ["x y", ""]).allFlags, Apart {} f := by
    intro f hf
    refine (hmark (by decide) f).2.2 ?_
    revert f
    decide
  have hwords : ∀ f ∈ (lone ["x", "y"]).allFlags, Apart {} f := by
    intro f hf
    refine hword f ?_
    revert f
    decide
  have hfits : ∀ f : String, Fits {} f.toList := fun f => (hmark (by decide) f).1
  exact ⟨hline (by decide) _ (by decide), hread _ hapart, hne _ _ hapart hwords (by decide),
    (hsame _ _ (fun f _ => hfits f) fun f _ => hfits f).1 (by decide +kernel)⟩

end ServiceBoundary.Fragment
