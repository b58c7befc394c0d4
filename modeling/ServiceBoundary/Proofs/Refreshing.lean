import Mathlib.Data.List.TakeWhile
import Mathlib.Logic.Relation
import ServiceBoundary.Proofs.UpToDate

/-!
# Bringing files up to date, one after the other

A file that has its text already is left alone. Any other file is written, and before that the
directories above it are made that are missing; this may fail at any point. So there are three ways
in which it goes, and what a file or a directory is afterwards is read off them: nothing comes but
missing directories above the path, and nothing changes but the one file that the path names.

* `Path.Above`         the directories above a path, as it is written;
* `FileTree.follow_of_makeDirectory`   a path leads to the directory that was made;
* `Workspace.Made`     a workspace in which directories were made;
* `Workspace.Refreshed`, `refreshed`   the three ways in which it goes;
* `Workspace.Exact`    what this says of one file;
* `frame_of_refreshAll`   what is different after many of them;
* `refreshes_are_exact`   both, for any texts in any order.
-/

namespace ServiceBoundary

/-- brings files up to date, each with its text, whatever becomes of the ones before -/
def Host.refreshAll {m : Type → Type} [Monad m] [Host m] :
    (steps : List (String × String)) → m (List (Except Failure Bool))
  | [] => return []
  | (path, text) :: steps => do
    let r ← (refresh path text).run
    return r :: (← refreshAll steps)

/-! ## directories above a path -/

namespace Path

/-- the directories above a path, as it is written -/
def Above (path : String) : String → Prop :=
  Relation.TransGen (fun p up => parent? p = some up) path

theorem reflTransGen_of_mem_makeableOf {cs ds : List Char} (h : ds ∈ makeableOf cs) :
    Relation.ReflTransGen (fun cs up => parentOf cs = some up) cs ds := by
  induction cs using makeableOf.induct with
  | case1 cs hnone =>
    rw [makeableOf] at h
    split at h
    · cases h
    · next hsome => cases hnone.symm.trans hsome
  | case2 cs up hup ih =>
    rw [makeableOf] at h
    split at h
    · cases h
    · next up' hup' =>
      cases hup.symm.trans hup'
      obtain rfl | h := List.mem_cons.1 h
      · exact .refl
      · exact .head hup (ih h)

theorem eq_or_above_of_mem_makeable {path up : String} (h : up ∈ makeable path) :
    up = path ∨ Above path up := by
  obtain ⟨ds, hds, rfl⟩ := List.mem_map.1 h
  have hparent : ∀ cs up : List Char, parentOf cs = some up →
      parent? (String.ofList cs) = some (String.ofList up) := by
    intro cs up hup
    rw [parent?, String.toList_ofList, hup]
    rfl
  have hchain : Relation.ReflTransGen (fun p up => parent? p = some up)
      (String.ofList path.toList) (String.ofList ds) :=
    (reflTransGen_of_mem_makeableOf hds).lift String.ofList hparent
  rw [String.ofList_toList] at hchain
  exact Relation.reflTransGen_iff_eq_or_transGen.1 hchain

end Path

namespace FileTree
variable {t t' : FileTree} {here : Place} {path : Route} {bs : List String}

theorem Grows.get?_eq_none (h : t.Grows t') (hnone : t'.get? here = none) : t.get? here = none := by
  rw [Option.eq_none_iff_forall_ne_some]
  intro e he
  have hsome : (t'.get? here).isSome = true := h.isSome_get? (by rw [he]; rfl)
  rw [hnone] at hsome
  cases hsome

theorem exists_dropTrailing_append {α : Type} (p : α → Bool) (l : List α) :
    ∃ tail, l = Text.dropTrailing p l ++ tail ∧ ∀ a ∈ tail, p a = true := by
  refine ⟨(l.reverse.takeWhile p).reverse, ?_, fun a ha => ?_⟩
  · rw [Text.dropTrailing, ← List.reverse_append, List.takeWhile_append_dropWhile,
      List.reverse_reverse]
  · exact List.mem_takeWhile_imp (List.mem_reverse.1 ha)

theorem foldlM_step_blank (hd : t.isDirectory here = true) (h : ∀ b ∈ bs, (b == "") = true) :
    bs.foldlM t.step here = .ok here := by
  induction bs with
  | nil => rfl
  | cons b bs ih =>
    obtain ⟨hb, hbs⟩ := List.forall_mem_cons.1 h
    have hstep : t.step here b = .ok here :=
      step_eq_ok_iff.2 ⟨hd, by rw [if_pos (.inl (by simpa using hb))]⟩
    rw [List.foldlM_cons, hstep]
    exact ih hbs

/-- **A path leads to the directory that was made**, also if separators follow its last part. -/
theorem follow_of_makeDirectory (h : t.makeDirectory path = .ok t') :
    ∃ here, here ≠ [] ∧ t.get? here = none ∧ t' = t.put here .directory ∧
      t'.follow path = .ok here := by
  obtain ⟨target, htarget, h⟩ := bind_eq_ok_iff.1 h
  obtain ⟨hstanding, h⟩ := guard_eq_ok_iff.1 h
  obtain ⟨hlong, h⟩ := guard_eq_ok_iff.1 h
  obtain ⟨hfree, h⟩ := guard_eq_ok_iff.1 h
  have hput : t' = t.put target.place .directory := (Except.ok.inj h).symm
  have hne : target.place ≠ [] := List.cons_ne_nil _ _
  have hnone : t.get? target.place = none := by simpa using hfree
  have hgrows : t.Grows t' := hput ▸ Grows.put_directory hne hnone
  have hthere : t'.get? target.place = some .directory := hput ▸ t.get?_put_self _ hne
  obtain ⟨hd, ps, hps, hfold, hname, -⟩ := target_eq_ok htarget
  obtain ⟨⟨hempty, hdot⟩, hdots⟩ :
      (target.name ≠ "" ∧ target.name ≠ ".") ∧ target.name ≠ ".." := by
    simpa [Target.isStanding] using hstanding
  refine ⟨target.place, hne, hnone, hput, bind_eq_ok_iff.2 ⟨ps, hps, ?_⟩⟩
  -- the parts are those on the way to the last name, this name, and empty ones
  obtain ⟨blanks, hblanks, hblank⟩ := exists_dropTrailing_append (· == "") ps
  have hnamed : Text.dropTrailing (· == "") ps ≠ [] := by
    intro hnil
    rw [hnil] at hname
    exact hempty hname
  have hlast : Text.dropTrailing (· == "") ps =
      (Text.dropTrailing (· == "") ps).dropLast ++ [target.name] := by
    rw [hname, List.getLastD_eq_getLast?, List.getLast?_eq_getLast_of_ne_nil hnamed]
    exact (List.dropLast_append_getLast _).symm
  have hstep : t'.step target.directory target.name = .ok target.place := by
    rw [step_eq_ok_iff, if_neg (not_or.2 ⟨hempty, hdot⟩), if_neg hdots]
    exact ⟨hgrows.isDirectory hd, hlong, by rw [← Target.place, hthere]; rfl, rfl⟩
  rw [hblanks, hlast, List.foldlM_append, List.foldlM_append]
  refine bind_eq_ok_iff.2 ⟨target.place, bind_eq_ok_iff.2 ⟨target.directory, ?_, ?_⟩, ?_⟩
  · exact hgrows.foldlM_step hfold
  · rw [List.foldlM_cons, hstep]
    rfl
  · exact foldlM_step_blank (isDirectory_iff.2 hthere) hblank

end FileTree

namespace Workspace
open Host
variable {ε α β : Type} {u v w : Workspace} {path text : String} {paths : String → Prop}
  {here : Place}

/-! ## directories that were made -/

/-- Nothing came but directories, where nothing was, and paths of this kind lead to them. -/
structure Made (paths : String → Prop) (w w' : Workspace) : Prop where
  workDirectory_eq : w'.workDirectory = w.workDirectory
  grows : w.tree.Grows w'.tree
  made : ∀ here, w'.tree.get? here ≠ w.tree.get? here → w.tree.get? here = none ∧
    w'.tree.get? here = some .directory ∧ ∃ path, paths path ∧ w'.place path = .ok here

namespace Made

theorem refl (w : Workspace) : w.Made paths w := ⟨rfl, .refl _, fun _ hne => absurd rfl hne⟩

theorem toGrows (h : w.Made paths v) : w.Grows v := ⟨h.grows, h.workDirectory_eq⟩

theorem trans (h : u.Made paths v) (h' : v.Made paths w) : u.Made paths w where
  workDirectory_eq := h'.workDirectory_eq.trans h.workDirectory_eq
  grows := h.grows.trans h'.grows
  made here hne := by
    by_cases hlast : w.tree.get? here = v.tree.get? here
    · rw [hlast] at hne ⊢
      obtain ⟨hnone, hdirectory, path, hpath, hplace⟩ := h.made here hne
      exact ⟨hnone, hdirectory, path, hpath, h'.toGrows.place hplace⟩
    · obtain ⟨hnone, hdirectory, hpath⟩ := h'.made here hlast
      exact ⟨h.grows.get?_eq_none hnone, hdirectory, hpath⟩

theorem content?_eq (h : w.Made paths v) (here : Place) :
    v.tree.content? here = w.tree.content? here := by
  by_cases hsame : v.tree.get? here = w.tree.get? here
  · rw [FileTree.content?, FileTree.content?, hsame]
  · obtain ⟨hnone, hdirectory, -⟩ := h.made here hsame
    rw [FileTree.content?, FileTree.content?, hnone, hdirectory]

theorem change_makeDirectory (hpath : paths path) :
    w.Made paths (w.change fun t => t.makeDirectory (w.absolute path)).2 := by
  unfold change
  split
  · next t ht =>
    obtain ⟨here, hne, hnone, rfl, hfollow⟩ := FileTree.follow_of_makeDirectory ht
    refine ⟨rfl, .put_directory hne hnone, fun there hdiffers => ?_⟩
    obtain rfl := FileTree.eq_of_get?_put_ne hne hdiffers
    exact ⟨hnone, w.tree.get?_put_self _ hne, path, hpath, hfollow⟩
  · exact .refl w

end Made

/-- The job does nothing but make directories, whatever comes of it. -/
def Making (paths : String → Prop) (x : Job ε α) : Prop := ∀ w : Workspace, w.Made paths (w.run x).2

theorem making_bind {x : Job ε α} {f : α → Job ε β} (hx : Making paths x)
    (hf : ∀ a, Making paths (f a)) : Making paths (x >>= f) := by
  intro w
  have hw := hx w
  rcases h : w.run x with ⟨result, v⟩
  rw [h] at hw
  cases result with
  | ok a =>
    rw [run_bind_of_ok h]
    exact hw.trans (hf a v)
  | error e =>
    rw [run_bind_of_error h]
    exact hw

theorem making_accept (path : String) (made : Except FileError Unit) :
    Making paths (accept path made : Job FileError Unit) := by
  unfold accept
  split
  · exact Made.refl
  · refine making_bind (fun w => .refl w) fun isThere => ?_
    split
    · exact Made.refl
    · exact Made.refl

theorem making_makeDirectories {ps : List String} (h : ∀ path ∈ ps, paths path) :
    Making paths (makeDirectories ps : Job FileError Unit) := by
  induction ps with
  | nil => exact Made.refl
  | cons path above ih =>
    obtain ⟨hpath, habove⟩ := List.forall_mem_cons.1 h
    have hmake : Making paths (makeDirectory path : Job FileError (Except FileError Unit)) :=
      fun w => .change_makeDirectory hpath
    refine making_bind hmake fun made => ?_
    split
    · exact making_bind (ih habove) fun _ => making_bind hmake fun made => making_accept path made
    · exact making_accept path _

/-! ## how it goes -/

/-- the path names a file of these bytes -/
def IsFile (w : Workspace) (path : String) (content : ByteArray) : Prop :=
  ∃ here, w.place path = .ok here ∧ w.tree.content? here = some content

theorem fromUTF8?_eq_some_iff {content : ByteArray} :
    String.fromUTF8? content = some text ↔ content = text.toUTF8 := by
  constructor
  · intro h
    rw [String.fromUTF8?] at h
    split at h
    · rw [← Option.some.inj h]
      rfl
    · cases h
  · rintro rfl
    exact FileTree.fromUTF8?_toUTF8 text

theorem holds_iff_isFile : w.Holds path text ↔ w.IsFile path text.toUTF8 := by
  rw [Holds, FileTree.readText_eq_ok_iff]
  refine exists_congr fun here => ?_
  constructor
  · rintro ⟨content, hplace, hcontent, htext⟩
    exact ⟨hplace, fromUTF8?_eq_some_iff.1 htext ▸ hcontent⟩
  · rintro ⟨hplace, hcontent⟩
    exact ⟨_, hplace, hcontent, FileTree.fromUTF8?_toUTF8 text⟩

/-- The ways in which it goes to bring a file up to date: the outcome, and the workspace then. -/
inductive Refreshed (path text : String) (w : Workspace) : Except Failure Bool → Workspace → Prop
  /-- the file has the text already -/
  | same (h : w.IsFile path text.toUTF8) :
      Refreshed path text w (.ok false) (w.tell (.unchanged path))
  /-- directories are made, and the file is written -/
  | written {u : Workspace} {here : Place} (h : ¬ w.IsFile path text.toUTF8)
      (hmade : w.Made (Path.Above path) u) (hne : here ≠ [])
      (hfree : u.tree.isDirectory here = false)
      (hplace : (u.tree.put here (.file text.toUTF8)).follow (u.absolute path) = .ok here) :
      Refreshed path text w (.ok true)
        (tell { u with tree := u.tree.put here (.file text.toUTF8) } (.wrote path))
  /-- a directory cannot be made, or the file cannot be written -/
  | failed {u : Workspace} {f : Failure} (h : ¬ w.IsFile path text.toUTF8)
      (hmade : w.Made (Path.Above path) u) : Refreshed path text w (.error f) u

theorem refreshed_write (h : ¬ w.IsFile path text.toUTF8) (hmade : w.Made (Path.Above path) u) :
    let x : Job Failure Bool := do
      Failure.during (.writeFile path) .file (writeText path text)
      log (.wrote path)
      return true
    Refreshed path text w (u.run x).1 (u.run x).2 := by
  intro x
  have hwrite : u.run (Failure.during (.writeFile path) .file (writeText path text)) =
      ((u.change fun t => t.writeText (u.absolute path) text).1.mapError fun e =>
          ⟨[.writeFile path], .file e⟩,
        (u.change fun t => t.writeText (u.absolute path) text).2) := rfl
  unfold change at hwrite
  split at hwrite
  · next t ht =>
    obtain ⟨here, hne, hfree, rfl, hplace⟩ := FileTree.writeText_eq_ok ht
    have hx : u.run x = (.ok true,
        tell { u with tree := u.tree.put here (.file text.toUTF8) } (.wrote path)) :=
      run_bind_of_ok hwrite
    rw [hx]
    exact .written h hmade hne hfree hplace
  · have hx : u.run x = _ := run_bind_of_error hwrite
    rw [hx]
    exact .failed h hmade

/-- **All that bringing a file up to date does.** -/
theorem refreshed (w : Workspace) (path text : String) :
    Refreshed path text w (w.run (refresh path text)).1 (w.run (refresh path text)).2 := by
  by_cases h : w.IsFile path text.toUTF8
  · rw [refresh_of_holds (holds_iff_isFile.2 h)]
    exact .same h
  · have hread : w.run (readText path : Job Failure _) =
        (.ok (w.tree.readText (w.absolute path)), w) := rfl
    have hdiffers := toOption_readText_ne (mt holds_iff_isFile.1 h)
    rw [refresh, run_bind_of_ok hread, if_neg hdiffers]
    split
    · exact refreshed_write h (.refl w)
    · next parent hparent =>
      have hmaking : Making (Path.Above path) (makeDirectories (Path.makeable parent)) := by
        refine making_makeDirectories fun up hup => ?_
        obtain rfl | hup := Path.eq_or_above_of_mem_makeable hup
        · exact .single hparent
        · exact .head hparent hup
      have hmade := hmaking w
      rcases hrun : w.run (Failure.during (.makeDirectory parent) .file
        (makeDirectories (Path.makeable parent)).run) with ⟨made, u⟩
      have hu : (w.run (makeDirectories (Path.makeable parent))).2 = u := congrArg Prod.snd hrun
      cases made with
      | ok _ =>
        rw [run_bind_of_ok hrun]
        exact refreshed_write h (hu ▸ hmade)
      | error f =>
        rw [run_bind_of_error hrun]
        exact .failed h (hu ▸ hmade)

/-! ## what is different afterwards -/

/-- Where something else is in the second workspace, it is a directory above one of the paths, and
nothing was there, or it is one of the texts that were written, and no directory was there. -/
def Accounted (paths : String → Prop) (written : String → String → Prop) (w v : Workspace) : Prop :=
  ∀ here, v.tree.get? here ≠ w.tree.get? here →
    (w.tree.get? here = none ∧ v.tree.get? here = some .directory ∧
      ∃ path up, paths path ∧ Path.Above path up ∧ v.place up = .ok here) ∨
    (w.tree.isDirectory here = false ∧
      ∃ path text, written path text ∧ v.place path = .ok here ∧
        v.tree.get? here = some (.file text.toUTF8))

theorem Accounted.mono {paths' : String → Prop} {written written' : String → String → Prop}
    (h : Accounted paths written w v) (hpaths : ∀ path, paths path → paths' path)
    (hwritten : ∀ path text, written path text → written' path text) :
    Accounted paths' written' w v := by
  intro here hne
  obtain ⟨hnone, hdirectory, path, up, hpath, habove, hup⟩ |
    ⟨hfree, path, text, htext, hplace, hfile⟩ := h here hne
  · exact .inl ⟨hnone, hdirectory, path, up, hpaths path hpath, habove, hup⟩
  · exact .inr ⟨hfree, path, text, hwritten path text htext, hplace, hfile⟩

theorem Accounted.trans {written : String → String → Prop} (h : Accounted paths written u v)
    (h' : Accounted paths written v w) (hgrows : u.Grows v) (hgrows' : v.Grows w) :
    Accounted paths written u w := by
  intro here hne
  by_cases hlast : w.tree.get? here = v.tree.get? here
  · rw [hlast] at hne ⊢
    obtain ⟨hnone, hdirectory, path, up, hpath, habove, hup⟩ |
      ⟨hfree, path, text, htext, hplace, hfile⟩ := h here hne
    · exact .inl ⟨hnone, hdirectory, path, up, hpath, habove, hgrows'.place hup⟩
    · exact .inr ⟨hfree, path, text, htext, hgrows'.place hplace, hfile⟩
  · obtain ⟨hnone, hrest⟩ | ⟨hfree, hrest⟩ := h' here hlast
    · exact .inl ⟨hgrows.tree.get?_eq_none hnone, hrest⟩
    · refine .inr ⟨?_, hrest⟩
      rw [Bool.eq_false_iff] at hfree ⊢
      exact fun hd => hfree (hgrows.tree.isDirectory hd)

theorem Accounted.of_made (h : w.Made (Path.Above path) v) (written : String → String → Prop) :
    Accounted (· = path) written w v := by
  intro here hne
  obtain ⟨hnone, hdirectory, up, habove, hup⟩ := h.made here hne
  exact .inl ⟨hnone, hdirectory, path, up, rfl, habove, hup⟩

theorem Accounted.of_tree_eq {written : String → String → Prop} (h : v.tree = w.tree) :
    Accounted paths written w v := by
  intro here hne
  rw [h] at hne
  exact absurd rfl hne

theorem Accounted.content?_eq {written : String → String → Prop} (h : Accounted paths written w v)
    (hnot : ∀ path text, written path text → v.place path ≠ .ok here) :
    v.tree.content? here = w.tree.content? here := by
  by_cases hsame : v.tree.get? here = w.tree.get? here
  · rw [FileTree.content?, FileTree.content?, hsame]
  · obtain ⟨hnone, hdirectory, -⟩ | ⟨-, path, text, htext, hplace, -⟩ := h here hsame
    · rw [FileTree.content?, FileTree.content?, hnone, hdirectory]
    · exact absurd hplace (hnot path text htext)

/-! ## one file -/

theorem tree_tell (w : Workspace) (e : Event) : (w.tell e).tree = w.tree := by
  obtain ⟨more, hmore⟩ := w.told_tell e
  rw [hmore]

theorem grows_tell (w : Workspace) (e : Event) : w.Grows (w.tell e) := by
  obtain ⟨more, hmore⟩ := w.told_tell e
  rw [hmore]
  exact ⟨.refl _, rfl⟩

section
variable {r : Except Failure Bool} (h : Refreshed path text w r v)
include h

theorem Refreshed.grows : w.Grows v := by
  cases h with
  | same => exact grows_tell w _
  | written _ hmade hne hfree _ =>
    refine .trans (hmade.toGrows.trans ?_) (grows_tell _ _)
    exact ⟨.put_file hne hfree _, rfl⟩
  | failed _ hmade => exact hmade.toGrows

theorem Refreshed.accounted :
    Accounted (· = path) (fun p t => r = .ok true ∧ p = path ∧ t = text) w v := by
  cases h with
  | same => exact .of_tree_eq (tree_tell w _)
  | @written u here _ hmade hne hfree hplace =>
    have hput : u.Grows { u with tree := u.tree.put here (.file text.toUTF8) } :=
      ⟨.put_file hne hfree _, rfl⟩
    refine ((Accounted.of_made hmade _).trans ?_ hmade.toGrows hput).trans
      (.of_tree_eq (tree_tell _ _)) (hmade.toGrows.trans hput) (grows_tell _ _)
    intro there hdiffers
    obtain rfl := FileTree.eq_of_get?_put_ne hne hdiffers
    exact .inr ⟨hfree, path, text, ⟨rfl, rfl, rfl⟩, hplace, u.tree.get?_put_self _ hne⟩
  | failed _ hmade => exact .of_made hmade _

theorem Refreshed.eq_ok_false_iff : r = .ok false ↔ w.IsFile path text.toUTF8 := by
  cases h with
  | same h => exact ⟨fun _ => h, fun _ => rfl⟩
  | written h => exact ⟨nofun, fun hfile => absurd hfile h⟩
  | failed h => exact ⟨nofun, fun hfile => absurd hfile h⟩

theorem Refreshed.tree_eq (hr : r = .ok false) : v.tree = w.tree := by
  cases h with
  | same => exact tree_tell w _
  | written => cases hr
  | failed => cases hr

end

/-- What it means for one file to be brought up to date: the outcome, and the workspace before and
after it. -/
structure Exact (path text : String) (w : Workspace) (r : Except Failure Bool) (v : Workspace) :
    Prop where
  /-- it is left alone just if it is the file with these bytes, and then nothing changes -/
  unchanged : r = .ok false ↔ w.IsFile path text.toUTF8
  tree_eq : r = .ok false → v.tree = w.tree
  /-- it is touched only if it is the file with these bytes afterwards -/
  isFile : r = .ok true → v.IsFile path text.toUTF8
  /-- after a failure, files are what they were -/
  content?_eq_of_error : ∀ f, r = .error f → ∀ here, v.tree.content? here = w.tree.content? here
  /-- files at other places are always what they were -/
  content?_eq : ∀ here, v.place path ≠ .ok here → v.tree.content? here = w.tree.content? here
  /-- what comes is the file and missing directories above it -/
  accounted : Accounted (· = path) (fun p t => r = .ok true ∧ p = path ∧ t = text) w v
  /-- once it is up to date, it is left alone -/
  again : ∀ b, r = .ok b → v.run (refresh path text) = (.ok false, v.tell (.unchanged path))

theorem exact_refresh (w : Workspace) (path text : String) :
    Exact path text w (w.run (refresh path text)).1 (w.run (refresh path text)).2 := by
  have h := w.refreshed path text
  have hholds : ∀ b, (w.run (refresh path text)).1 = .ok b →
      Holds (w.run (refresh path text)).2 path text := by
    intro b hb
    exact holds_of_refresh (Prod.ext hb rfl)
  refine ⟨h.eq_ok_false_iff, h.tree_eq, ?_, ?_, ?_, h.accounted, ?_⟩
  · intro hr
    exact holds_iff_isFile.1 (hholds true hr)
  · intro f hf here
    refine h.accounted.content?_eq fun path text htext => ?_
    exact absurd (hf.symm.trans htext.1) (by simp)
  · intro here hplace
    refine h.accounted.content?_eq fun path text htext => ?_
    rw [htext.2.1]
    exact hplace
  · intro b hb
    exact refresh_of_holds (hholds b hb)

/-! ## many files -/

/-- the outcomes of bringing files up to date, and the workspace afterwards -/
def refreshAll (w : Workspace) (steps : List (String × String)) :
    List (Except Failure Bool) × Workspace :=
  Host.refreshAll (m := StateM Workspace) steps w

theorem refreshAll_cons (w : Workspace) (path text : String) (steps : List (String × String)) :
    w.refreshAll ((path, text) :: steps) =
      ((w.run (refresh path text)).1 :: ((w.run (refresh path text)).2.refreshAll steps).1,
        ((w.run (refresh path text)).2.refreshAll steps).2) := rfl

/-- **What is different after many files**: the texts of those that were touched, and missing
directories above their paths. -/
theorem frame_of_refreshAll (w : Workspace) (steps : List (String × String)) :
    w.Grows (w.refreshAll steps).2 ∧ (w.refreshAll steps).1.length = steps.length ∧
      Accounted (fun path => ∃ text, (path, text) ∈ steps)
        (fun path text => ((path, text), .ok true) ∈ steps.zip (w.refreshAll steps).1)
        w (w.refreshAll steps).2 := by
  induction steps generalizing w with
  | nil => exact ⟨.refl w, rfl, .of_tree_eq rfl⟩
  | cons step steps ih =>
    obtain ⟨path, text⟩ := step
    have h := w.refreshed path text
    rw [refreshAll_cons]
    obtain ⟨hgrows, hlen, haccounted⟩ := ih (w.run (refresh path text)).2
    refine ⟨h.grows.trans hgrows, congrArg Nat.succ hlen, ?_⟩
    refine Accounted.trans (h.accounted.mono ?_ ?_) (haccounted.mono ?_ ?_) h.grows hgrows
    · rintro _ rfl
      exact ⟨text, List.mem_cons_self⟩
    · rintro _ _ ⟨hr, rfl, rfl⟩
      rw [List.zip_cons_cons, hr]
      exact List.mem_cons_self
    · rintro other ⟨text', hmem⟩
      exact ⟨text', List.mem_cons_of_mem _ hmem⟩
    · intro other text' hmem
      exact List.mem_cons_of_mem _ hmem

/-- **Bringing files up to date is exact and local.** In whatever state the files before have left
the workspace, a file is left alone just if it has its bytes already, and touched only so that it
has them; a failure changes no file, and nothing else changes any other file. In the end all that is
different are the texts of files that were touched, and directories above them that were missing. -/
theorem refreshes_are_exact (w : Workspace) (steps : List (String × String)) :
    (∀ path text, Exact path text (w.refreshAll steps).2
      ((w.refreshAll steps).2.run (refresh path text)).1
      ((w.refreshAll steps).2.run (refresh path text)).2) ∧
    (w.refreshAll steps).1.length = steps.length ∧
    Accounted (fun path => ∃ text, (path, text) ∈ steps)
      (fun path text => ((path, text), .ok true) ∈ steps.zip (w.refreshAll steps).1)
      w (w.refreshAll steps).2 := by
  obtain ⟨-, hlen, haccounted⟩ := w.frame_of_refreshAll steps
  exact ⟨fun path text => exact_refresh _ path text, hlen, haccounted⟩

end Workspace

end ServiceBoundary
