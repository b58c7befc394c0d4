import ServiceBoundary.Proofs.Files
import ServiceBoundary.Program
import ServiceBoundary.Workspace

/-!
# What jobs do to a workspace

A job leaves a workspace behind, whether it succeeds or fails. Most jobs only look at files and tell
something. Those that bring a file up to date change files, and only such that one path names; on
the way to the file they make directories, which changes no file.

* `Workspace.run`       a job on a workspace;
* `Workspace.Told`      a workspace in which more was told;
* `Workspace.Touches`   a workspace in which other files are the same;
* `Workspace.Touching`  a job that leaves other files alone;
* `touching_refresh`    bringing a file up to date touches the file that its path names.
-/

namespace ServiceBoundary

/-- a job for workspaces -/
abbrev Job (ε α : Type) : Type := ExceptT ε (StateM Workspace) α

namespace Workspace
open Host
variable {ε α β : Type} {u v w : Workspace} {paths paths' : String → Prop}

/-- the outcome of a job, and the workspace afterwards -/
def run (w : Workspace) (x : Job ε α) : Except ε α × Workspace := ExceptT.run x w

/-! ## outcomes -/

theorem run_bind (x : Job ε α) (f : α → Job ε β) :
    w.run (x >>= f) = (ExceptT.bindCont f (w.run x).1).run (w.run x).2 := rfl

theorem run_bind_of_ok {x : Job ε α} {f : α → Job ε β} {a : α} (h : w.run x = (.ok a, v)) :
    w.run (x >>= f) = v.run (f a) := by
  rw [run_bind, h]
  rfl

theorem run_bind_of_error {x : Job ε α} {f : α → Job ε β} {e : ε} (h : w.run x = (.error e, v)) :
    w.run (x >>= f) = (.error e, v) := by
  rw [run_bind, h]
  rfl

theorem run_eq_error_of_discard {x : Job ε α} {e : ε} (h : w.run (discard x) = (.error e, v)) :
    w.run x = (.error e, v) := by
  match hx : w.run x with
  | (.ok a, v') => cases (run_bind_of_ok hx).symm.trans h
  | (.error e', v') =>
    cases (run_bind_of_error hx).symm.trans h
    rfl

theorem run_bind_of_look {x : Job ε α} {f : α → Job ε β} {r : Except ε α} {s : α → Except ε β}
    (hx : w.run x = (r, w)) (hf : ∀ a, w.run (f a) = (s a, w)) :
    w.run (x >>= f) = (r >>= s, w) := by
  cases r with
  | error e => exact run_bind_of_error hx
  | ok a => exact (run_bind_of_ok hx).trans (hf a)

theorem run_present (path : String) (a : α) (e : ε) :
    w.run (do if ← present path then return a else throw e : Job ε α) =
      (if (w.tree.find? (w.absolute path)).isSome then .ok a else .error e, w) := by
  refine (run_bind_of_ok (v := w) rfl).trans ?_
  split <;> rfl

theorem run_readText (task : Task) (path : String) :
    w.run (Failure.during task .file (readText path)) =
      ((w.tree.readText (w.absolute path)).mapError fun e => ⟨[task], .file e⟩, w) := rfl

theorem run_during (task : Task) (toCause : ε → Cause) (x : Except ε α) :
    w.run (Failure.during task toCause (pure x)) =
      (x.mapError fun e => ⟨[task], toCause e⟩, w) := rfl

theorem run_orFail (toCause : ε → Cause) (x : Except ε α) :
    w.run (Failure.orFail toCause x) = (x.mapError fun e => .ofCause (toCause e), w) := rfl

theorem run_logAll (events : List Event) :
    w.run (logAll events : Job ε Unit) = (.ok (), events.foldl tell w) := by
  induction events generalizing w with
  | nil => rfl
  | cons e events ih =>
    rw [List.foldl_cons, ← ih]
    rfl

theorem bind_apply {x : StateM Workspace α} {k : α → StateM Workspace β} {a : α}
    (h : x w = (a, v)) : (x >>= k) w = k a v := by
  change k (x w).1 (x w).2 = k a v
  rw [h]

/-! ## telling -/

/-- the second workspace is the first one after more was told -/
def Told (w w' : Workspace) : Prop := ∃ more, w' = { w with notes := w.notes ++ more }

theorem Told.refl (w : Workspace) : w.Told w := ⟨"", by rw [String.append_empty]⟩

theorem Told.trans (h : u.Told v) (h' : v.Told w) : u.Told w := by
  obtain ⟨more, rfl⟩ := h
  obtain ⟨more', rfl⟩ := h'
  exact ⟨more ++ more', by rw [String.append_assoc]⟩

theorem told_tell (e : Event) : w.Told (w.tell e) := by
  unfold tell
  split
  · exact ⟨e.line, rfl⟩
  · exact .refl w

theorem told_foldl_tell (events : List Event) : w.Told (events.foldl tell w) := by
  induction events generalizing w with
  | nil => exact .refl w
  | cons e events ih => exact (told_tell e).trans ih

/-! ## touching files -/

/-- Each file that differs in the second workspace is named there by one of the paths. -/
def Confined (paths : String → Prop) (w w' : Workspace) : Prop :=
  ∀ here, w'.tree.content? here ≠ w.tree.content? here →
    ∃ path, paths path ∧ w'.tree.follow (w.absolute path) = .ok here

/-- Nothing but files differs in the second workspace, and what was told. The tree has grown, and
the files that differ are named by the paths. -/
structure Touches (paths : String → Prop) (w w' : Workspace) : Prop where
  workDirectory_eq : w'.workDirectory = w.workDirectory
  output_eq : w'.output = w.output
  grows : w.tree.Grows w'.tree
  confined : Confined paths w w'

theorem absolute_congr (h : w.workDirectory = v.workDirectory) (path : String) :
    w.absolute path = v.absolute path := by
  rw [absolute, absolute, h]

namespace Touches

theorem of_told (h : w.Told v) : w.Touches paths v := by
  obtain ⟨more, rfl⟩ := h
  exact ⟨rfl, rfl, .refl _, fun here hne => absurd rfl hne⟩

theorem refl (w : Workspace) : w.Touches paths w := of_told (.refl w)

theorem mono (h : w.Touches paths v) (hp : ∀ path, paths path → paths' path) :
    w.Touches paths' v where
  workDirectory_eq := h.workDirectory_eq
  output_eq := h.output_eq
  grows := h.grows
  confined here hne := by
    obtain ⟨path, hpath, hfollow⟩ := h.confined here hne
    exact ⟨path, hp path hpath, hfollow⟩

theorem trans (h : u.Touches paths v) (h' : v.Touches paths w) : u.Touches paths w where
  workDirectory_eq := h'.workDirectory_eq.trans h.workDirectory_eq
  output_eq := h'.output_eq.trans h.output_eq
  grows := h.grows.trans h'.grows
  confined here hne := by
    by_cases hlast : w.tree.content? here = v.tree.content? here
    · rw [hlast] at hne
      obtain ⟨path, hpath, hfollow⟩ := h.confined here hne
      exact ⟨path, hpath, h'.grows.follow hfollow⟩
    · obtain ⟨path, hpath, hfollow⟩ := h'.confined here hlast
      exact ⟨path, hpath, absolute_congr h.workDirectory_eq path ▸ hfollow⟩

theorem change_makeDirectory (path : FileTree.Route) :
    w.Touches paths (w.change fun t => t.makeDirectory path).2 := by
  unfold change
  split
  · next t ht =>
    obtain ⟨here, hne, hfree, rfl⟩ := FileTree.makeDirectory_eq_ok ht
    exact ⟨rfl, rfl, .put_directory hne hfree,
      fun there hdiffers => absurd (FileTree.content?_put_directory hne hfree) hdiffers⟩
  · exact .refl w

theorem change_writeText (path text : String) :
    w.Touches (· = path) (w.change fun t => t.writeText (w.absolute path) text).2 := by
  unfold change
  split
  · next t ht =>
    obtain ⟨here, hne, hfile, rfl, hfollow⟩ := FileTree.writeText_eq_ok ht
    refine ⟨rfl, rfl, .put_file hne hfile _, fun there hdiffers => ⟨path, rfl, ?_⟩⟩
    have hthere : there = here := by
      by_contra hother
      exact hdiffers (FileTree.content?_put_of_ne hne hother)
    rw [hthere]
    exact hfollow
  · exact .refl w

end Touches

/-! ## jobs that leave files alone -/

/-- The job changes no files but those that the paths name, whatever comes of it. -/
def Touching (paths : String → Prop) (x : Job ε α) : Prop :=
  ∀ w : Workspace, w.Touches paths (w.run x).2

theorem touching_pure (a : α) : Touching paths (pure a : Job ε α) := fun w => .refl w

theorem touching_throw (e : ε) : Touching paths (throw e : Job ε α) := fun w => .refl w

theorem touching_bind {x : Job ε α} {f : α → Job ε β} (hx : Touching paths x)
    (hf : ∀ a, Touching paths (f a)) : Touching paths (x >>= f) := by
  intro w
  have hw := hx w
  match h : w.run x with
  | (.ok a, v) =>
    rw [h] at hw
    rw [run_bind_of_ok h]
    exact hw.trans (hf a v)
  | (.error e, v) =>
    rw [h] at hw
    rw [run_bind_of_error h]
    exact hw

theorem Touching.mono {x : Job ε α} (hx : Touching paths x)
    (hp : ∀ path, paths path → paths' path) : Touching paths' x :=
  fun w => (hx w).mono hp

theorem touching_discard {x : Job ε α} (hx : Touching paths x) : Touching paths (discard x) :=
  touching_bind hx fun _ => touching_pure ()

theorem touching_during {x : StateM Workspace (Except ε α)} (task : Task) (toCause : ε → Cause)
    (hx : Touching paths (ExceptT.mk x)) : Touching paths (Failure.during task toCause x) := hx

theorem touching_log (e : Event) : Touching paths (log e : Job ε Unit) :=
  fun _ => .of_told (told_tell e)

/-! ## bringing files up to date -/

theorem touching_makeDirectory (path : String) :
    Touching paths (makeDirectory path : Job ε (Except FileError Unit)) :=
  fun w => .change_makeDirectory (w.absolute path)

theorem touching_accept (path : String) (made : Except FileError Unit) :
    Touching paths (accept path made : Job FileError Unit) := by
  unfold accept
  split
  · exact touching_pure ()
  · refine touching_bind (fun w => .refl w) fun isThere => ?_
    split
    · exact touching_pure ()
    · exact touching_throw _

theorem touching_makeDirectories (ps : List String) :
    Touching paths (makeDirectories ps : Job FileError Unit) := by
  induction ps with
  | nil => exact touching_pure ()
  | cons path above ih =>
    refine touching_bind (touching_makeDirectory path) fun made => ?_
    split
    · refine touching_bind ih fun _ => ?_
      exact touching_bind (touching_makeDirectory path) fun made => touching_accept path made
    · exact touching_accept path _

/-- **Bringing a file up to date touches the file that its path names**, and no other one. -/
theorem touching_refresh (path text : String) :
    Touching (· = path) (refresh path text : Job Failure Bool) := by
  refine touching_bind (fun w => .refl w) fun found => ?_
  split
  · exact touching_bind (touching_log _) fun _ => touching_pure false
  · have hwrite : Touching (· = path) (do
        Failure.during (.writeFile path) .file (writeText path text)
        log (.wrote path)
        return true : Job Failure Bool) := by
      refine touching_bind (touching_during _ _ fun w => .change_writeText path text) fun _ => ?_
      exact touching_bind (touching_log _) fun _ => touching_pure true
    split
    · exact hwrite
    · refine touching_bind (touching_during _ _ ?_) fun _ => hwrite
      exact touching_makeDirectories _

end Workspace

end ServiceBoundary
