import ServiceBoundary.Proofs.Requests

/-!
# Files that are up to date

A file that was brought up to date holds its text, and while it does, it is left alone when it is
brought up to date again. It loses the text only if another one is written to the same place: trees
grow, so a path leads where it led, and a request touches the one file that its path names.

* `Workspace.place`     where a path leads;
* `Workspace.Holds`     a path names a file with this text;
* `Touches.holds`       a file keeps its text when one at another place is brought up to date;
* `refresh_of_holds`    a file that holds its text is left alone;
* `holds_of_refresh`    a file that was brought up to date holds its text;
* `Workspace.Grows`     a workspace whose tree has grown.
-/

namespace ServiceBoundary

namespace FileTree
variable {t t' : FileTree} {here : Place} {path : Route} {text : String}

/-! ## texts in trees -/

theorem fromUTF8?_toUTF8 (text : String) : String.fromUTF8? text.toUTF8 = some text := by
  rw [String.fromUTF8?]
  exact dif_pos text.isValidUTF8

theorem readText_eq_ok_iff : t.readText path = .ok text ↔
    ∃ here content, t.follow path = .ok here ∧ t.content? here = some content ∧
      String.fromUTF8? content = some text := by
  rw [readText, bind_eq_ok_iff]
  refine exists_congr fun here => ?_
  unfold content?
  split
  · next h => simp [h]
  · next h => simp [h]
  · next content h => cases hc : String.fromUTF8? content <;> simp [h, hc]

theorem Grows.readText (h : t.Grows t') (hread : t.readText path = .ok text)
    (hsame : ∀ here, t.follow path = .ok here → t'.content? here = t.content? here) :
    t'.readText path = .ok text := by
  obtain ⟨here, content, hfollow, hcontent, htext⟩ := readText_eq_ok_iff.1 hread
  exact readText_eq_ok_iff.2
    ⟨here, content, h.follow hfollow, (hsame here hfollow).trans hcontent, htext⟩

theorem readText_of_writeText (h : t.writeText path text = .ok t') :
    t'.readText path = .ok text := by
  obtain ⟨here, hne, -, rfl, hfollow⟩ := writeText_eq_ok h
  refine readText_eq_ok_iff.2 ⟨here, text.toUTF8, hfollow, ?_, fromUTF8?_toUTF8 text⟩
  rw [content?, get?_put_self t _ hne]

end FileTree

namespace Workspace
open Host
variable {ε α β : Type} {u v w : Workspace} {path other text : String}

/-! ## bringing a file up to date -/

def place (w : Workspace) (path : String) : Except FileError Place :=
  w.tree.follow (w.absolute path)

/-- the path names a file with this text -/
def Holds (w : Workspace) (path text : String) : Prop :=
  w.tree.readText (w.absolute path) = .ok text

theorem Touches.holds (h : w.Touches (· = other) v) (hw : w.Holds path text)
    (hne : v.place other ≠ v.place path) : v.Holds path text := by
  have hdir : ∀ path, v.absolute path = w.absolute path := absolute_congr h.workDirectory_eq
  rw [place, place, hdir, hdir] at hne
  rw [Holds, hdir]
  refine h.grows.readText hw fun here hhere => ?_
  by_contra hdiffers
  obtain ⟨_, rfl, hother⟩ := h.confined here hdiffers
  exact hne (hother.trans (h.grows.follow hhere).symm)

theorem run_bind_eq_ok_iff {x : Job ε α} {f : α → Job ε β} {b : β} :
    w.run (x >>= f) = (.ok b, v) ↔ ∃ a u, w.run x = (.ok a, u) ∧ u.run (f a) = (.ok b, v) := by
  match h : w.run x with
  | (.ok a, u) =>
    rw [run_bind_of_ok h]
    refine ⟨fun hf => ⟨a, u, rfl, hf⟩, ?_⟩
    rintro ⟨_, _, ha, hf⟩
    cases ha
    exact hf
  | (.error e, u) =>
    rw [run_bind_of_error h]
    refine ⟨nofun, ?_⟩
    rintro ⟨_, _, ha, -⟩
    cases ha

theorem run_bind_eq_error_iff {x : Job ε α} {f : α → Job ε β} {e : ε} :
    w.run (x >>= f) = (.error e, v) ↔
      w.run x = (.error e, v) ∨ ∃ a u, w.run x = (.ok a, u) ∧ u.run (f a) = (.error e, v) := by
  match h : w.run x with
  | (.ok a, u) =>
    rw [run_bind_of_ok h]
    refine ⟨fun hf => .inr ⟨a, u, rfl, hf⟩, ?_⟩
    rintro (hx | ⟨_, _, hx, hf⟩)
    · cases hx
    · cases hx
      exact hf
  | (.error e', u) =>
    rw [run_bind_of_error h]
    constructor
    · intro hf
      cases hf
      exact .inl rfl
    · rintro (hx | ⟨_, _, hx, -⟩)
      · cases hx
        rfl
      · cases hx

theorem run_discard_eq_ok_iff {x : Job ε α} :
    w.run (discard x) = (.ok (), v) ↔ ∃ a, w.run x = (.ok a, v) := by
  refine run_bind_eq_ok_iff.trans (exists_congr fun a => ?_)
  constructor
  · rintro ⟨u, hx, hu⟩
    cases hu
    exact hx
  · exact fun hx => ⟨v, hx, rfl⟩

theorem Told.holds (h : w.Told v) (hw : w.Holds path text) : v.Holds path text := by
  obtain ⟨more, rfl⟩ := h
  exact hw

/-- **A file that holds its text is left alone.** -/
theorem refresh_of_holds (h : w.Holds path text) :
    w.run (refresh path text : Job Failure Bool) = (.ok false, w.tell (.unchanged path)) := by
  have hread : w.run (readText path : Job Failure _) = (.ok (.ok text), w) := by
    change (Except.ok (w.tree.readText (w.absolute path)), w) = _
    rw [h]
  have hsame : (Except.ok text : Except FileError String).toOption = some text := rfl
  rw [refresh, run_bind_of_ok hread, if_pos hsame]
  rfl

theorem holds_of_write {changed : Bool}
    (h : w.run (do
      Failure.during (.writeFile path) .file (writeText path text)
      log (.wrote path)
      return true : Job Failure Bool) = (.ok changed, v)) : v.Holds path text := by
  obtain ⟨_, u, hwrite, h⟩ := run_bind_eq_ok_iff.1 h
  have hlog : u.Told v := by
    obtain ⟨_, u', hlog, h⟩ := run_bind_eq_ok_iff.1 h
    cases hlog
    cases h
    exact told_tell _
  refine hlog.holds ?_
  change ((w.change fun t => t.writeText (w.absolute path) text).1.mapError _,
    (w.change fun t => t.writeText (w.absolute path) text).2) = _ at hwrite
  unfold change at hwrite
  split at hwrite
  · next t ht =>
    cases hwrite
    exact FileTree.readText_of_writeText ht
  · cases hwrite

theorem toOption_readText_ne (hw : ¬ w.Holds path text) :
    (w.tree.readText (w.absolute path)).toOption ≠ some text := by
  intro hsame
  cases hr : w.tree.readText (w.absolute path) with
  | ok found =>
    rw [hr] at hsame
    cases hsame
    exact hw hr
  | error e =>
    rw [hr] at hsame
    cases hsame

/-- **A file that was brought up to date holds its text.** -/
theorem holds_of_refresh {changed : Bool}
    (h : w.run (refresh path text : Job Failure Bool) = (.ok changed, v)) : v.Holds path text := by
  by_cases hw : w.Holds path text
  · rw [refresh_of_holds hw] at h
    cases h
    exact (told_tell _).holds hw
  · have hread : w.run (readText path : Job Failure _) =
        (.ok (w.tree.readText (w.absolute path)), w) := rfl
    rw [refresh, run_bind_of_ok hread, if_neg (toOption_readText_ne hw)] at h
    split at h
    · exact holds_of_write h
    · obtain ⟨_, u, -, h⟩ := run_bind_eq_ok_iff.1 h
      exact holds_of_write h

/-! ## workspaces that grow -/

/-- the tree has grown, and paths are seen from the same directory -/
structure Grows (w v : Workspace) : Prop where
  tree : w.tree.Grows v.tree
  workDirectory_eq : v.workDirectory = w.workDirectory

namespace Grows

theorem refl (w : Workspace) : w.Grows w := ⟨.refl _, rfl⟩

theorem trans (h : u.Grows v) (h' : v.Grows w) : u.Grows w :=
  ⟨h.tree.trans h'.tree, h'.workDirectory_eq.trans h.workDirectory_eq⟩

theorem place (h : w.Grows v) {here : Place} (hw : w.place path = .ok here) :
    v.place path = .ok here := by
  rw [Workspace.place, absolute_congr h.workDirectory_eq]
  exact h.tree.follow hw

end Grows

theorem Touches.toGrows {paths : String → Prop} (h : w.Touches paths v) : w.Grows v :=
  ⟨h.grows, h.workDirectory_eq⟩

theorem exists_place_of_holds (h : w.Holds path text) : ∃ here, w.place path = .ok here := by
  obtain ⟨here, -, hfollow, -⟩ := FileTree.readText_eq_ok_iff.1 h
  exact ⟨here, hfollow⟩

theorem holds_congr (htree : v.tree = w.tree) (hdir : v.workDirectory = w.workDirectory) :
    v.Holds path text ↔ w.Holds path text := by
  rw [Holds, Holds, htree, absolute_congr hdir]

end Workspace

end ServiceBoundary
