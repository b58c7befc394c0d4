import ServiceBoundary.FileTree
import ServiceBoundary.Proofs.Results

/-!
# Trees that grow

No request takes anything away from a tree. A directory that is made is made where nothing was, and
a text is written where there is a file or nothing; so directories stay, and where there was a file
there is one still. Whatever a path named, it names in the tree afterwards.

* `FileTree.content?`   the bytes of a file;
* `FileTree.Grows`      a tree with all that another one has;
* `Grows.follow`        paths lead where they led;
* `makeDirectory_eq_ok`, `writeText_eq_ok`   what the two requests change, and that a path names the
  file that was written through it.
-/

namespace ServiceBoundary

namespace FileTree
variable {t t' t'' : FileTree} {here there next : Place} {path : Route} {part text : String}
  {e : Entry} {content : ByteArray} {ps : List String}

/-! ## what is at a place -/

/-- the bytes of the file at the place -/
def content? (t : FileTree) (here : Place) : Option ByteArray :=
  match t.get? here with
  | some (.file content) => some content
  | _ => none

theorem isDirectory_iff : t.isDirectory here = true ↔ t.get? here = some .directory := by
  unfold isDirectory
  split
  · next h => simp [h]
  · next h => simpa using h

theorem get?_put_self (t : FileTree) (e : Entry) (h : here ≠ []) :
    (t.put here e).get? here = some e := by
  rw [get?_put t here here e h, if_pos rfl]

theorem eq_of_get?_put_ne (h : here ≠ [])
    (hdiffers : (t.put here e).get? there ≠ t.get? there) : there = here := by
  by_contra hother
  exact hdiffers (by rw [get?_put t here there e h, if_neg hother])

theorem content?_put_of_ne (hne : here ≠ []) (h : there ≠ here) :
    (t.put here e).content? there = t.content? there := by
  rw [content?, content?, get?_put t here there e hne, if_neg h]

theorem content?_put_directory (hne : here ≠ []) (h : t.get? here = none) :
    (t.put here .directory).content? there = t.content? there := by
  by_cases hh : there = here
  · subst hh
    rw [content?, content?, get?_put_self t _ hne, h]
  · exact content?_put_of_ne hne hh

theorem step_eq_ok_iff : t.step here part = .ok next ↔ t.isDirectory here = true ∧
    if part = "" ∨ part = "." then next = here
    else if part = ".." then next = here.tail
    else ¬ longestName < part.utf8ByteSize ∧ (t.get? (part :: here)).isSome = true ∧
      next = part :: here := by
  rw [FileTree.step, guard_eq_ok_iff, Bool.not_eq_true', Bool.not_eq_false]
  have hinj : ∀ place : Place, (.ok place : Except FileError Place) = .ok next ↔ next = place :=
    fun _ => ⟨fun h => (Except.ok.inj h).symm, fun h => h ▸ rfl⟩
  refine and_congr_right fun _ => ?_
  by_cases hstay : part = "" ∨ part = "."
  · rw [if_pos hstay, if_pos hstay, hinj]
  · rw [if_neg hstay, if_neg hstay]
    by_cases hup : part = ".."
    · rw [if_pos hup, if_pos hup, hinj]
    · rw [if_neg hup, if_neg hup, guard_eq_ok_iff, guard_eq_ok_iff, hinj,
        Option.isNone_iff_eq_none, ← ne_eq, ← Option.isSome_iff_ne_none]

/-! ## trees that grow -/

/-- the second tree has the directories of the first one, and a file wherever the first one has
one -/
structure Grows (t t' : FileTree) : Prop where
  directory : ∀ here, t.get? here = some .directory → t'.get? here = some .directory
  file : ∀ here content, t.get? here = some (.file content) →
    ∃ content', t'.get? here = some (.file content')

namespace Grows

theorem refl (t : FileTree) : t.Grows t := ⟨fun _ h => h, fun _ content h => ⟨content, h⟩⟩

theorem trans (h : t.Grows t') (h' : t'.Grows t'') : t.Grows t'' where
  directory here hd := h'.directory here (h.directory here hd)
  file here content hf := by
    obtain ⟨content', hf'⟩ := h.file here content hf
    exact h'.file here content' hf'

theorem put_directory (hne : here ≠ []) (h : t.get? here = none) :
    t.Grows (t.put here .directory) := by
  have hput : ∀ there, t.get? there ≠ none →
      (t.put here .directory).get? there = t.get? there := by
    intro there hthere
    have hother : there ≠ here := fun hh => hthere (hh ▸ h)
    rw [get?_put t here there _ hne, if_neg hother]
  refine ⟨fun there hd => ?_, fun there content hf => ⟨content, ?_⟩⟩
  · rw [hput there (by simp [hd]), hd]
  · rw [hput there (by simp [hf]), hf]

theorem put_file (hne : here ≠ []) (h : t.isDirectory here = false) (content : ByteArray) :
    t.Grows (t.put here (.file content)) := by
  refine ⟨fun there hd => ?_, fun there content' hf => ?_⟩
  · have hother : there ≠ here := by
      rintro rfl
      rw [isDirectory_iff.2 hd] at h
      cases h
    rw [get?_put t here there _ hne, if_neg hother, hd]
  · by_cases hh : there = here
    · exact ⟨content, by rw [get?_put t here there _ hne, if_pos hh]⟩
    · exact ⟨content', by rw [get?_put t here there _ hne, if_neg hh, hf]⟩

section
variable (h : t.Grows t')
include h

theorem isDirectory (hd : t.isDirectory here = true) : t'.isDirectory here = true :=
  isDirectory_iff.2 (h.directory here (isDirectory_iff.1 hd))

theorem isSome_get? (hs : (t.get? here).isSome) : (t'.get? here).isSome := by
  obtain ⟨e, he⟩ := Option.isSome_iff_exists.1 hs
  cases e with
  | directory => rw [h.directory here he]; rfl
  | file content =>
    obtain ⟨content', hf⟩ := h.file here content he
    rw [hf]
    rfl

/-! ## paths -/

theorem step (hstep : t.step here part = .ok next) : t'.step here part = .ok next := by
  obtain ⟨hd, hnext⟩ := step_eq_ok_iff.1 hstep
  refine step_eq_ok_iff.2 ⟨h.isDirectory hd, ?_⟩
  split_ifs at hnext ⊢
  · exact hnext
  · exact hnext
  · exact ⟨hnext.1, h.isSome_get? hnext.2.1, hnext.2.2⟩

theorem foldlM_step (hfold : ps.foldlM t.step here = .ok next) :
    ps.foldlM t'.step here = .ok next := by
  induction ps generalizing here with
  | nil => exact hfold
  | cons p ps ih =>
    rw [List.foldlM_cons] at hfold ⊢
    obtain ⟨mid, hmid, hrest⟩ := bind_eq_ok_iff.1 hfold
    exact bind_eq_ok_iff.2 ⟨mid, h.step hmid, ih hrest⟩

/-- **Paths lead where they led.** -/
theorem follow (hf : t.follow path = .ok here) : t'.follow path = .ok here := by
  obtain ⟨ps, hps, hfold⟩ := bind_eq_ok_iff.1 hf
  exact bind_eq_ok_iff.2 ⟨ps, hps, h.foldlM_step hfold⟩

end

end Grows

/-! ## the two requests -/

theorem split_ne_nil (cs : List Char) : Path.split cs ≠ [] := by
  cases cs with
  | nil => exact List.cons_ne_nil _ _
  | cons c cs =>
    rw [Path.split]
    split
    · exact List.cons_ne_nil _ _
    · split <;> exact List.cons_ne_nil _ _

theorem parts_ne_nil (h : parts path = .ok ps) : ps ≠ [] := by
  obtain ⟨-, h⟩ := guard_eq_ok_iff.1 h
  obtain ⟨-, h⟩ := guard_eq_ok_iff.1 h
  obtain ⟨-, h⟩ := guard_eq_ok_iff.1 h
  rw [← Except.ok.inj h]
  exact fun hnil => split_ne_nil _ (List.map_eq_nil_iff.1 hnil)

theorem dropTrailing_eq_self {p : String → Bool}
    (h : ¬ (Text.dropTrailing p ps).length < ps.length) : Text.dropTrailing p ps = ps := by
  have hsuffix : ps.reverse.dropWhile p <:+ ps.reverse := List.dropWhile_suffix p
  have hlen : ps.reverse.length ≤ (ps.reverse.dropWhile p).length := by
    simpa [Text.dropTrailing] using h
  rw [Text.dropTrailing, hsuffix.eq_of_length_le hlen, List.reverse_reverse]

theorem target_eq_ok {target : Target} (h : t.target path = .ok target) :
    t.isDirectory target.directory = true ∧ ∃ ps, parts path = .ok ps ∧
      (Text.dropTrailing (· == "") ps).dropLast.foldlM t.step [] = .ok target.directory ∧
      target.name = (Text.dropTrailing (· == "") ps).getLastD "" ∧
      target.trailing = decide ((Text.dropTrailing (· == "") ps).length < ps.length) := by
  obtain ⟨ps, hps, h⟩ := bind_eq_ok_iff.1 h
  obtain ⟨directory, hdir, h⟩ := bind_eq_ok_iff.1 h
  obtain ⟨hd, h⟩ := guard_eq_ok_iff.1 h
  cases h
  exact ⟨by simpa using hd, ps, hps, hdir, rfl, rfl⟩

/-- **What making a directory changes.** It is made where nothing was. -/
theorem makeDirectory_eq_ok (h : t.makeDirectory path = .ok t') :
    ∃ here, here ≠ [] ∧ t.get? here = none ∧ t' = t.put here .directory := by
  obtain ⟨target, -, h⟩ := bind_eq_ok_iff.1 h
  obtain ⟨-, h⟩ := guard_eq_ok_iff.1 h
  obtain ⟨-, h⟩ := guard_eq_ok_iff.1 h
  obtain ⟨hfree, h⟩ := guard_eq_ok_iff.1 h
  exact ⟨target.place, List.cons_ne_nil _ _, by simpa using hfree, (Except.ok.inj h).symm⟩

theorem follow_of_target {target : Target} (h : t.target path = .ok target)
    (hgrows : t.Grows t') (hthere : (t'.get? target.place).isSome = true)
    (hname : target.isStanding = false) (hend : target.trailing = false)
    (hlong : ¬ longestName < target.name.utf8ByteSize) : t'.follow path = .ok target.place := by
  obtain ⟨hd, ps, hps, hfold, hlast, htrailing⟩ := target_eq_ok h
  -- no separator follows the last part, so the path has the parts that the target was made of
  rw [hend, eq_comm, decide_eq_false_iff_not] at htrailing
  rw [dropTrailing_eq_self htrailing] at hfold hlast
  have hparts : ps = ps.dropLast ++ [target.name] := by
    rw [hlast, List.getLastD_eq_getLast?, List.getLast?_eq_getLast_of_ne_nil (parts_ne_nil hps)]
    exact (List.dropLast_append_getLast _).symm
  have hstep : t'.step target.directory target.name = .ok target.place := by
    obtain ⟨⟨hempty, hdot⟩, hdots⟩ :
        (target.name ≠ "" ∧ target.name ≠ ".") ∧ target.name ≠ ".." := by
      simpa [Target.isStanding] using hname
    rw [step_eq_ok_iff, if_neg (not_or.2 ⟨hempty, hdot⟩), if_neg hdots]
    exact ⟨hgrows.isDirectory hd, hlong, hthere, rfl⟩
  refine bind_eq_ok_iff.2 ⟨ps, hps, ?_⟩
  rw [hparts, List.foldlM_append]
  refine bind_eq_ok_iff.2 ⟨target.directory, hgrows.foldlM_step hfold, ?_⟩
  rw [List.foldlM_cons]
  exact bind_eq_ok_iff.2 ⟨target.place, hstep, rfl⟩

/-- **What writing a text changes.** A file comes, or gets another text, where no directory was, and
the path leads there afterwards. -/
theorem writeText_eq_ok (h : t.writeText path text = .ok t') :
    ∃ here, here ≠ [] ∧ t.isDirectory here = false ∧ t' = t.put here (.file text.toUTF8) ∧
      t'.follow path = .ok here := by
  obtain ⟨target, htarget, h⟩ := bind_eq_ok_iff.1 h
  obtain ⟨hname, h⟩ := guard_eq_ok_iff.1 h
  obtain ⟨hlong, h⟩ := guard_eq_ok_iff.1 h
  obtain ⟨hfile, h⟩ := guard_eq_ok_iff.1 h
  have hput : t' = t.put target.place (.file text.toUTF8) := (Except.ok.inj h).symm
  simp only [Bool.or_eq_true, not_or, Bool.not_eq_true] at hname hfile
  have hne : target.place ≠ [] := List.cons_ne_nil _ _
  have hgrows : t.Grows t' := hput ▸ Grows.put_file hne hfile _
  have hthere : (t'.get? target.place).isSome = true := by
    rw [hput, get?_put_self t _ hne]
    rfl
  exact ⟨target.place, hne, hfile, hput,
    follow_of_target htarget hgrows hthere hname.1 hname.2 hlong⟩

end FileTree

end ServiceBoundary
