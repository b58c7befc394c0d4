import ServiceBoundary.Proofs.Pending

/-!
# Rebuilds

A run that is made again finds its inputs where the first run found them, with the same texts, so it
comes to the same points and makes the same decision. All that the first run wrote is up to date by
then, and is left alone. This takes two things: no two files are at one place, else the second run
would write the earlier one again, and none is at the place of a file that is read.

* `Point.Reads`, `Decision.read`   the files that a run reads;
* `Decision.Apart`        the files of a decision are at different places;
* `holds_of_reads`        what a run has read is there in the end;
* `step_again`            a stage is passed again, and changes nothing;
* `Retraces`, `retraces_of_reaches`   a run that comes to the points of an earlier one;
* `execute_eq_zero_iff`   a command line that succeeds;
* `rebuild_touches_nothing`   a command line that succeeds, made again.

`Workspace.seed` is a small workspace with a manifest and a template, for examples.
-/

namespace ServiceBoundary
open Relation

variable {args : List String} {o : Options} {l : Locator} {w w' w₁ w₂ u u' v : Workspace}
  {p q : Point} {d : Decision} {path text : String}

/-! ## what a run reads -/

/-- the stage that comes next reads the file of the path -/
inductive Point.Reads : Point → String → Prop
  | manifest {path : String} : Reads (.located path) path
  | roots {path file : String} {manifest : Manifest} :
      Reads (.rootsLocated path manifest (some file)) file
  | template {d : Decision} {tablePath makePath : Option String} {done : List RenderedTemplate}
      {entry : TemplateEntry} {entries : List TemplateEntry} {path : String}
      (h : d.locator.resolve entry.source = .ok path) :
      Reads (.rendering d tablePath makePath done (entry :: entries)) path

/-- the files that a run with this decision reads -/
def Decision.read (o : Options) (d : Decision) : List String :=
  d.locator.manifest.toList ++ (d.locator.rootsCandidate o.rootsFile).toList ++
    d.manifest.emission.templates.filterMap fun entry => (d.locator.resolve entry.source).toOption

/-- The files that a run with this decision writes are at different places in the end, and none of
them is at the place of one that it reads. -/
structure Decision.Apart (o : Options) (d : Decision) (w : Workspace) : Prop where
  written : (d.written o).Pairwise fun a b => w.place a ≠ w.place b
  read : ∀ a ∈ d.written o, ∀ b ∈ d.read o, w.place a ≠ w.place b

theorem locate_eq_ok_iff {e : LocationError} {found : String} : w.locate path e = .ok found ↔
    (w.tree.find? (w.absolute path)).isSome ∧ found = path := by
  unfold Workspace.locate
  split
  · next h => simp [h, eq_comm]
  · next h => simp [h]

theorem eq_of_locateRoots {candidate file : Option String}
    (h : w.locateRoots candidate = .ok file) : file = candidate := by
  cases candidate with
  | none =>
    cases h
    rfl
  | some path =>
    obtain ⟨found, hfound, rfl⟩ := map_eq_ok_iff.1 h
    rw [(locate_eq_ok_iff.1 hfound).2]

/-- where the inputs are that a point tells of -/
def Point.Sourced (o : Options) (l : Locator) : Point → Prop
  | located path => path = (l.manifestCandidate o.manifest).2
  | loaded path _ => path = (l.manifestCandidate o.manifest).2
  | rootsLocated path _ file =>
    path = (l.manifestCandidate o.manifest).2 ∧ file = l.rootsCandidate o.rootsFile
  | named path _ _ => path = (l.manifestCandidate o.manifest).2
  | linked path _ _ _ => path = (l.manifestCandidate o.manifest).2
  | counted path _ _ _ => path = (l.manifestCandidate o.manifest).2
  | planned d => d.locator = l.withManifest (l.manifestCandidate o.manifest).2
  | _ => True

section
variable [Library]

/-- The options and the environment say where the inputs are. -/
theorem sourced_of_reaches (h : Reaches o l w p u) : p.Sourced o l := by
  refine Reaches.induction (motive := fun p _ => p.Sourced o l) trivial ?_ h
  intro p u q v _ hstep ih
  cases next_of_step hstep with
  | locate hpath => exact (locate_eq_ok_iff.1 hpath).2
  | load => exact ih
  | locateRoots hfile => exact ⟨ih, eq_of_locateRoots hfile⟩
  | noRootsFile => exact ih.1
  | loadRoots => exact ih.1
  | link => exact ih
  | count => exact ih
  | plan => exact congrArg l.withManifest ih
  | _ => trivial

theorem locator_of_decides (hd : Decides o l w d) :
    d.locator = l.withManifest (l.manifestCandidate o.manifest).2 := by
  obtain ⟨u, hu⟩ := hd
  exact sourced_of_reaches hu

theorem mem_read_of_reads (hd : Decides o l w d) (h : Reaches o l w p u) (hp : p.Reads path) :
    path ∈ d.read o := by
  have hlocator := locator_of_decides hd
  have hsourced := sourced_of_reaches h
  cases hp with
  | manifest =>
    refine List.mem_append_left _ (List.mem_append_left _ ?_)
    rw [hlocator, Option.mem_toList]
    exact congrArg some (Eq.symm hsourced)
  | roots =>
    refine List.mem_append_left _ (List.mem_append_right _ ?_)
    rw [hlocator, Option.mem_toList]
    exact hsourced.2.symm
  | template hpath =>
    obtain ⟨hd', -, -, -, hentries⟩ := backed_of_reaches h
    cases eq_of_decides hd hd'
    refine List.mem_append_right _ (List.mem_filterMap.2 ⟨_, hentries _ List.mem_cons_self, ?_⟩)
    rw [hpath]
    rfl

/-- **What a run has read is there in the end**, if it writes to other places. -/
theorem holds_of_reads (hd : Decides o l w d) (hend : Reaches o l w .finished w')
    (hapart : d.Apart o w') (h : Reaches o l w p u) (hp : p.Reads path)
    (hu : u.Holds path text) : w'.Holds path text :=
  holds_of_steps (h.completes hend) hu fun _ _ _ _ hq hother =>
    hapart.read _ (mem_written_of_refreshes hd (h.trans hq) hother) _ (mem_read_of_reads hd h hp)

end

/-! ## stages that are passed again -/

section
variable (hgrows : u.Grows u')
include hgrows

theorem isSome_find?_of_grows (h : (u.tree.find? (u.absolute path)).isSome) :
    (u'.tree.find? (u'.absolute path)).isSome := by
  rw [Workspace.absolute_congr hgrows.workDirectory_eq]
  unfold FileTree.find? at h ⊢
  split at h
  · next here hhere =>
    rw [hgrows.tree.follow hhere]
    exact hgrows.tree.isSome_get? h
  · cases h

theorem locate_again {e : LocationError} {found : String} (h : u.locate path e = .ok found) :
    u'.locate path e = .ok found := by
  rw [locate_eq_ok_iff] at h ⊢
  exact ⟨isSome_find?_of_grows hgrows h.1, h.2⟩

theorem locateRoots_again {candidate file : Option String}
    (h : u.locateRoots candidate = .ok file) : u'.locateRoots candidate = .ok file := by
  cases candidate with
  | none => exact h
  | some path =>
    obtain ⟨found, hfound, hfile⟩ := map_eq_ok_iff.1 h
    exact map_eq_ok_iff.2 ⟨found, locate_again hgrows hfound, hfile⟩

end

/-- the stage that comes next may bring a file up to date -/
def Point.mayRefresh : Point → Bool
  | planned _ => true
  | writing _ (_ :: _) => true
  | _ => false

theorem Point.mayRefresh_of_refreshes (h : p.Refreshes o path text) : p.mayRefresh = true := by
  cases h with
  | report => rfl
  | delivery => rfl

theorem Point.mayRefresh_of_stage (h : p.stage = .report) : p.mayRefresh = true := by
  cases p with
  | planned => rfl
  | _ => cases h

/-- what the stage that comes next prints -/
def Point.printed (o : Options) : Point → String
  | written out => out.printed o
  | _ => ""

section
variable [Library]

theorem Next.again (h : Next o l u p q) (hgrows : u.Grows u')
    (hreads : ∀ path text, p.Reads path → u.Holds path text → u'.Holds path text) :
    Next o l u' p q := by
  cases h with
  | locate hpath => exact .locate (locate_again hgrows hpath)
  | load hmanifest =>
    obtain ⟨text, htext, hparse⟩ := bind_eq_ok_iff.1 hmanifest
    have hagain := hreads _ text .manifest (mapError_eq_ok_iff.1 htext)
    exact .load (bind_eq_ok_iff.2 ⟨text, mapError_eq_ok_iff.2 hagain, hparse⟩)
  | locateRoots hfile => exact .locateRoots (locateRoots_again hgrows hfile)
  | noRootsFile => exact .noRootsFile
  | loadRoots hnames =>
    obtain ⟨text, htext, hparse⟩ := bind_eq_ok_iff.1 hnames
    have hagain := hreads _ text .roots (mapError_eq_ok_iff.1 htext)
    exact .loadRoots (bind_eq_ok_iff.2 ⟨text, mapError_eq_ok_iff.2 hagain, hparse⟩)
  | link hgraph => exact .link hgraph
  | count htally => exact .count htally
  | plan hplan => exact .plan hplan
  | report => exact .report
  | placeTable htable => exact .placeTable htable
  | placeMakeFlags hmake => exact .placeMakeFlags hmake
  | render ht =>
    obtain ⟨source, hsource, ht⟩ := bind_eq_ok_iff.1 ht
    obtain ⟨output, houtput, ht⟩ := bind_eq_ok_iff.1 ht
    obtain ⟨text, htext, ht⟩ := bind_eq_ok_iff.1 ht
    have hagain := hreads source text (.template (mapError_eq_ok_iff.1 hsource))
      (mapError_eq_ok_iff.1 htext)
    exact .render (bind_eq_ok_iff.2 ⟨source, hsource, bind_eq_ok_iff.2 ⟨output, houtput,
      bind_eq_ok_iff.2 ⟨text, mapError_eq_ok_iff.2 hagain, ht⟩⟩⟩)
  | rendered => exact .rendered
  | write => exact .write
  | written => exact .written
  | print => exact .print
  | stay => exact .stay

theorem Next.attempt_eq (h : Next o l u p q) (hreport : p.stage ≠ .report)
    (hp : ∀ path text, ¬ p.Refreshes o path text) : (p.attempt o l u).1 = .ok q := by
  cases h with
  | locate hpath => exact map_eq_ok_iff.2 ⟨_, hpath, rfl⟩
  | load hmanifest => exact map_eq_ok_iff.2 ⟨_, hmanifest, rfl⟩
  | locateRoots hfile => exact map_eq_ok_iff.2 ⟨_, hfile, rfl⟩
  | loadRoots hnames => exact map_eq_ok_iff.2 ⟨_, hnames, rfl⟩
  | link hgraph => exact map_eq_ok_iff.2 ⟨_, mapError_eq_ok_iff.2 hgraph, rfl⟩
  | count htally => exact map_eq_ok_iff.2 ⟨_, mapError_eq_ok_iff.2 htally, rfl⟩
  | plan hplan => exact map_eq_ok_iff.2 ⟨_, mapError_eq_ok_iff.2 hplan, rfl⟩
  | report => exact absurd rfl hreport
  | placeTable htable => exact map_eq_ok_iff.2 ⟨_, mapError_eq_ok_iff.2 htable, rfl⟩
  | placeMakeFlags hmake => exact map_eq_ok_iff.2 ⟨_, mapError_eq_ok_iff.2 hmake, rfl⟩
  | render ht => exact map_eq_ok_iff.2 ⟨_, ht, rfl⟩
  | write => exact absurd .delivery (hp _ _)
  | _ => rfl

theorem Reaches.next (h : Reaches o l w p u) (hnext : Next o l u p q) (hp : p.mayRefresh = false) :
    Reaches o l w q (p.attempt o l u).2 := by
  refine h.tail (Prod.ext (hnext.attempt_eq ?_ ?_) rfl)
  · intro hreport
    cases hp.symm.trans (Point.mayRefresh_of_stage hreport)
  · intro path text hrefreshes
    cases hp.symm.trans (Point.mayRefresh_of_refreshes hrefreshes)

theorem Reaches.write {out : Outputs} {delivery : Delivery} {rest : List Delivery} {changed : Bool}
    (h : Reaches o l w (.writing out (delivery :: rest)) u)
    (hrun : u.run (Host.refresh delivery.path delivery.text : Job Failure Bool) =
      (.ok changed, v)) : Reaches o l w (.writing out rest) v := by
  obtain ⟨q, hstep⟩ := (exists_step_iff_of_refreshes (l := l) (p := .writing out (delivery :: rest))
    .delivery).2 ⟨changed, hrun⟩
  cases next_of_step hstep with
  | write => exact h.tail hstep

theorem attempt_again (hgrows : u.Grows u') (h : Step o l (p, u) (q, v))
    (hp : ∀ path text, ¬ p.Refreshes o path text)
    (hreads : ∀ path text, p.Reads path → u.Holds path text → u'.Holds path text) :
    (p.attempt o l u').1 = .ok q := by
  have hnext : Next o l u' p q := (next_of_step h).again hgrows hreads
  cases p with
  | planned d =>
    -- a report without a file is told, which cannot fail
    have hfst : ((d.told o u).1.map fun _ => Point.reported d) = .ok q := congrArg Prod.fst h
    obtain ⟨_, htold, hq⟩ := map_eq_ok_iff.1 hfst
    obtain ⟨more, hmore⟩ := exists_told (Prod.ext htold rfl) hp
    exact map_eq_ok_iff.2 ⟨(), congrArg Prod.fst (hmore u'), hq⟩
  | _ => exact hnext.attempt_eq nofun hp

theorem eq_of_refreshes {q' : Point} {v' : Workspace} (hp : p.Refreshes o path text)
    (h : Step o l (p, u) (q, v)) (h' : Step o l (p, u') (q', v')) : q = q' := by
  cases hp with
  | report =>
    cases next_of_step h with
    | report =>
      cases next_of_step h' with
      | report => rfl
  | delivery =>
    cases next_of_step h with
    | write =>
      cases next_of_step h' with
      | write => rfl

/-- **A stage is passed again**, and leaves files alone, if what it reads is the same and what it
brings up to date is so already. -/
theorem step_again (hgrows : u.Grows u') (h : Step o l (p, u) (q, v))
    (hreads : ∀ path text, p.Reads path → u.Holds path text → u'.Holds path text)
    (hfiles : ∀ path text, p.Refreshes o path text → u'.Holds path text) :
    ∃ v', Step o l (p, u') (q, v') ∧ v'.tree = u'.tree ∧ v'.workDirectory = u'.workDirectory := by
  by_cases hp : ∃ path text, p.Refreshes o path text
  · obtain ⟨path, text, hp⟩ := hp
    obtain ⟨more, hmore⟩ := Workspace.told_tell (w := u') (.unchanged path)
    obtain ⟨q', hq'⟩ := (exists_step_iff_of_refreshes (l := l) hp).2
      ⟨false, Workspace.refresh_of_holds (hfiles path text hp)⟩
    cases eq_of_refreshes hp h hq'
    rw [hmore] at hq'
    exact ⟨_, hq', rfl, rfl⟩
  · have hp : ∀ path text, ¬ p.Refreshes o path text := fun path text hr => hp ⟨path, text, hr⟩
    have hstep : Step o l (p, u') (q, (p.attempt o l u').2) :=
      Prod.ext (attempt_again hgrows h hp hreads) rfl
    exact ⟨_, hstep, same_of_step hstep hp⟩

theorem output_of_step (h : Step o l (p, u) (q, v)) : v.output = u.output ++ p.printed o := by
  have hsnd : (p.attempt o l u).2 = v := congrArg Prod.snd h
  subst hsnd
  cases p with
  | written out => rfl
  | _ =>
    refine Eq.trans (Workspace.Touches.output_eq (touches_attempt ?_)) String.append_empty.symm
    exact nofun

/-! ## runs that are made again -/

/-- A run that finds the workspace `w₁` comes to a point of the run that led from `w` to `w'`. It
has printed the same as that one had by then, and files are as that one left them. -/
structure Retraces (o : Options) (l : Locator) (w w' w₁ : Workspace) (p : Point) (u' : Workspace) :
    Prop where
  exists_first : ∃ u, Reaches o l w p u ∧
    ∃ text, u.output = w.output ++ text ∧ u'.output = w₁.output ++ text
  tree_eq : u'.tree = w'.tree
  workDirectory_eq : u'.workDirectory = w'.workDirectory

section
variable (hd : Decides o l w d) (hend : Reaches o l w .finished w') (hapart : d.Apart o w')
include hd hend hapart

theorem Retraces.exists_step (h : Retraces o l w w' w₁ p u') :
    ∃ q v', Step o l (p, u') (q, v') ∧ Retraces o l w w' w₁ q v' := by
  obtain ⟨⟨u, hu, text, houtput, houtput'⟩, htree, hdir⟩ := h
  -- the earlier run had come to its end here, or it went on
  obtain heq | ⟨⟨q, v⟩, hstep, -⟩ := (hu.completes hend).cases_head
  · cases heq
    exact ⟨.finished, u', rfl, ⟨_, hend, text, houtput, houtput'⟩, htree, hdir⟩
  · have hgrows : u.Grows u' := by
      obtain ⟨htrees, hdirs⟩ := grows_of_steps (hu.completes hend)
      exact ⟨htree ▸ htrees, hdir.trans hdirs⟩
    obtain ⟨v', hstep', htree', hdir'⟩ := step_again hgrows hstep
      (fun path text hp hholds => (Workspace.holds_congr htree hdir).2
        (holds_of_reads hd hend hapart hu hp hholds))
      (fun path text hp => (Workspace.holds_congr htree hdir).2
        (holds_of_finished hd hend hapart.written hu hp))
    refine ⟨q, v', hstep', ⟨v, hu.tail hstep, text ++ p.printed o, ?_, ?_⟩, htree'.trans htree,
      hdir'.trans hdir⟩
    · rw [output_of_step hstep, houtput, String.append_assoc]
    · rw [output_of_step hstep', houtput', String.append_assoc]

/-- **A run that is made again retraces the earlier one.** -/
theorem retraces_of_reaches (htree : w₁.tree = w'.tree)
    (hdir : w₁.workDirectory = w'.workDirectory) (h : Reaches o l w₁ p u') :
    Retraces o l w w' w₁ p u' := by
  refine Reaches.induction ⟨⟨w, .refl, "", ?_, ?_⟩, htree, hdir⟩ ?_ h
  · rw [String.append_empty]
  · rw [String.append_empty]
  · intro p u q v _ hstep ih
    obtain ⟨q', v', hstep', hretraces⟩ := ih.exists_step hd hend hapart
    cases rightUnique_step hstep hstep'
    exact hretraces

theorem Retraces.refresh_eq (h : Retraces o l w w' w₁ p u') (hp : p.Refreshes o path text) :
    ∃ v, u'.run (Host.refresh path text : Job Failure Bool) = (.ok false, v) := by
  obtain ⟨⟨u, hu, -⟩, htree, hdir⟩ := h
  have hholds : u'.Holds path text := (Workspace.holds_congr htree hdir).2
    (holds_of_finished hd hend hapart.written hu hp)
  exact ⟨_, Workspace.refresh_of_holds hholds⟩

end

/-! ## command lines -/

theorem exists_finished (h : ∀ p u, Reaches o l w p u → ∃ s, Step o l (p, u) s) :
    ∃ w', Reaches o l w .finished w' := by
  match hw : w.run (Host.run o l) with
  | (.ok (), w') => exact ⟨w', follows_run.ok hw⟩
  | (.error f, w') =>
    obtain ⟨⟨p, u⟩, hp, hfail⟩ := follows_run.error hw
    obtain ⟨s, hstep⟩ := h p u hp
    cases hfail.symm.trans hstep

theorem exists_decision (hend : Reaches o l w .finished w') : ∃ d, Decides o l w d := by
  obtain ⟨p, u, q, v, hp, -, hstage, -⟩ := passed_of_lt hend (s := .report) (by decide)
  cases p with
  | planned d => exact ⟨d, u, hp⟩
  | _ => cases hstage

/-- **A command line that succeeds** comes to the end of its run. -/
theorem execute_eq_zero_iff (h : Library.options args = .ok o) :
    Host.execute (m := StateM Workspace) args l w = (0, w') ↔
      Reaches o l { w with threshold := threshold o l } .finished w' := by
  match hw : { w with threshold := threshold o l }.run (Host.run o l) with
  | (.ok (), v) =>
    have hv : Reaches o l { w with threshold := threshold o l } .finished v := follows_run.ok hw
    rw [execute_eq h l hw]
    constructor
    · intro heq
      cases heq
      exact hv
    · intro hend
      cases eq_of_steps_finished (hv.completes hend)
      rfl
  | (.error f, v) =>
    rw [execute_eq h l hw]
    refine ⟨nofun, fun hend => ?_⟩
    obtain ⟨⟨p, u⟩, hp, hfail⟩ := follows_run.error hw
    obtain heq | ⟨s, hstep, -⟩ := (Reaches.completes hp hend).cases_head
    · cases heq
      cases hfail
    · cases hfail.symm.trans hstep

end

/-! ## an example -/

/-- the text of a manifest with one module and one template -/
def Manifest.seedText : String :=
  "emit.templates=[\x7bname=\"n\",source=\"t\",output=\"o\"\x7d]\n" ++
    "tasks=[\x7bname=\"a\",file=\"f\"\x7d]"

def Manifest.seed : Manifest where
  emission := { templates := [{ name := "n", source := "t", output := "o" }] }
  tasks := [{ name := "a", source := "f" }]

def ModuleGraph.seed : ModuleGraph where
  size := 1
  modules := #v[
    { name := "a", source := "f", resources := {}, flags := [], dependencies := [],
      dependencies_nodup := by decide }]
  names_nodup := by decide

instance : NeZero ModuleGraph.seed.size := ⟨by decide⟩

def Decision.seed : Decision where
  locator := { environment := [], workDirectory := "/", manifest := some "/m" }
  manifest := .seed
  graph := .seed
  tally := ⟨#v[2], [0]⟩
  plan := { components := [{ name := "a", source := "f", resources := {}, flags := [] }] }

def RenderedTemplate.seed : RenderedTemplate := { name := "n", output := "/o", text := "x" }

/-- the only module is a root, and the service table may get a file -/
def Options.seed (table : Option String) : Options :=
  { manifest := some "m", roots := ["a"], serviceTable := table }

def Locator.seed : Locator := { environment := [], workDirectory := "/" }

/-- a workspace with a manifest, a template and what a run has made -/
def Workspace.seed (manifest : String) (made : List (Place × Entry)) (notes : String) :
    Workspace where
  tree := ⟨made ++ [(["m"], .file manifest.toUTF8), (["t"], .file "x".toUTF8)]⟩
  notes

section
variable {manifest notes table : String} (tablePath : Option String)

theorem holds_seed : (Workspace.seed manifest [] notes).Holds "/m" manifest ∧
    (Workspace.seed manifest [] notes).Holds "/t" "x" := by
  have hm : (Workspace.seed manifest [] notes).place "/m" = .ok ["m"] := by cbv
  have ht : (Workspace.seed manifest [] notes).place "/t" = .ok ["t"] := by cbv
  exact ⟨FileTree.readText_eq_ok_iff.2 ⟨_, _, hm, rfl, FileTree.fromUTF8?_toUTF8 _⟩,
    FileTree.readText_eq_ok_iff.2 ⟨_, _, ht, rfl, FileTree.fromUTF8?_toUTF8 _⟩⟩

theorem refresh_table : (Workspace.seed manifest [] notes).run
    (Host.refresh "b" table : Job Failure Bool) =
      (.ok true, .seed manifest [(["b"], .file table.toUTF8)]
        (notes ++ (Event.wrote "b").line)) := by
  cbv

theorem refresh_output : (Workspace.seed manifest [(["b"], .file table.toUTF8)] notes).run
    (Host.refresh "/o" "x" : Job Failure Bool) =
      (.ok true, .seed manifest [(["o"], .file "x".toUTF8), (["b"], .file table.toUTF8)]
        (notes ++ (Event.wrote "/o").line)) := by
  cbv

theorem apart_seed {output table : ByteArray} : Decision.seed.Apart (.seed (some "b"))
    (.seed manifest [(["o"], .file output), (["b"], .file table)] notes) := by
  have hwritten : Decision.seed.written (.seed (some "b")) = ["b", "/o"] := by decide +kernel
  have hread : Decision.seed.read (.seed (some "b")) = ["/m", "/t"] := by decide +kernel
  generalize hw : Workspace.seed manifest [(["o"], .file output), (["b"], .file table)] notes = w
  have hb : w.place "b" = .ok ["b"] := by subst hw; cbv
  have ho : w.place "/o" = .ok ["o"] := by subst hw; cbv
  have hm : w.place "/m" = .ok ["m"] := by subst hw; cbv
  have ht : w.place "/t" = .ok ["t"] := by subst hw; cbv
  constructor
  · simp [hwritten, hb, ho]
  · simp [hwritten, hread, hb, ho, hm, ht]

theorem parse_seedText : Manifest.parse Manifest.seedText = .ok .seed := by cbv

variable (hparse : Manifest.parse manifest = .ok .seed)
include hparse

theorem decides_seed : Decides (.seed tablePath) .seed (.seed manifest [] "") .seed := by
  have hcandidate : Locator.seed.manifestCandidate (some "m") = (.option, "/m") := by
    decide +kernel
  have hlink : ModuleGraph.link Manifest.seed.tasks = .ok .seed := rfl
  have htally : Tally.ofRoots .seed ["a"] = .ok Decision.seed.tally := by cbv
  have hplan : Decision.seed.tally.plan .local = .ok Decision.seed.plan := by cbv
  have hmanifest : (Workspace.seed manifest [] "").manifestAt "/m" = .ok .seed :=
    bind_eq_ok_iff.2 ⟨_, mapError_eq_ok_iff.2 holds_seed.1, mapError_eq_ok_iff.2 hparse⟩
  have hlocated : Reaches (.seed tablePath) .seed (.seed manifest [] "") (.located "/m")
      (.seed manifest [] "") := by
    refine Reaches.next .refl (.locate ?_) rfl
    rw [Options.seed, hcandidate]
    exact locate_eq_ok_iff.2 ⟨by cbv, rfl⟩
  have hloaded := hlocated.next (.load hmanifest) rfl
  have hnamed := (hloaded.next (.locateRoots rfl) rfl).next .noRootsFile rfl
  have hlinked := hnamed.next (.link hlink) rfl
  have hcounted := hlinked.next (.count htally) rfl
  exact ⟨_, hcounted.next (.plan hplan) rfl⟩

theorem writing_seed : ∃ notes, Reaches (.seed tablePath) .seed (.seed manifest [] "")
    (.writing (Decision.seed.outputs (.seed tablePath) tablePath none [.seed])
      (Decision.seed.writes (.seed tablePath) tablePath none [.seed]))
    (.seed manifest [] notes) := by
  obtain ⟨u, hu⟩ := decides_seed tablePath hparse
  obtain ⟨notes, rfl⟩ : (Workspace.seed manifest [] "").Told u :=
    told_of_reaches hu (Nat.le_refl _)
  have hrendered : Decision.seed.rendered (.seed manifest [] ("" ++ notes))
      { name := "n", source := "t", output := "o" } = .ok .seed := by
    have hsource : Decision.seed.locator.resolve "t" = .ok "/t" := by decide +kernel
    have houtput : Decision.seed.locator.resolve "o" = .ok "/o" := by decide +kernel
    have hbase : Decision.seed.locator.baseDirectory = "/" := by decide +kernel
    have htext : Decision.seed.plan.render "/" "x" = .ok "x" := by cbv
    refine bind_eq_ok_iff.2 ⟨"/t", mapError_eq_ok_iff.2 hsource, ?_⟩
    refine bind_eq_ok_iff.2 ⟨"/o", mapError_eq_ok_iff.2 houtput, ?_⟩
    refine bind_eq_ok_iff.2 ⟨"x", mapError_eq_ok_iff.2 holds_seed.2, ?_⟩
    exact bind_eq_ok_iff.2 ⟨"x", mapError_eq_ok_iff.2 (hbase ▸ htext), rfl⟩
  have hplace : Decision.seed.locator.outputPath tablePath none = .ok tablePath := by
    cases tablePath <;> rfl
  have hreported : Reaches (.seed tablePath) .seed (.seed manifest [] "") (.reported .seed)
      (.seed manifest [] ("" ++ notes)) := hu.tail rfl
  have hplaced := hreported.next (.placeTable hplace) rfl
  have hmake : Decision.seed.locator.outputPath none none = .ok none := rfl
  have hrendering := hplaced.next (.placeMakeFlags hmake) rfl
  exact ⟨_, (hrendering.next (.render hrendered) rfl).next .rendered rfl⟩

theorem finished_seed : ∃ table notes : String,
    Reaches (.seed (some "b")) .seed (.seed manifest [] "") .finished
      (.seed manifest [(["o"], .file "x".toUTF8), (["b"], .file table.toUTF8)] notes) := by
  obtain ⟨notes, hwriting⟩ := writing_seed (some "b") hparse
  have hwritten := (hwriting.write refresh_table).write refresh_output
  exact ⟨_, _, (hwritten.next .written rfl).next .print rfl⟩

end

/-- **A rebuild touches nothing.** A command line succeeded, and the files that it writes are at
different places, none of them at the place of a file that it reads. When it is made again it
succeeds and prints the same. Each file that it brings up to date is so already, and no file is
changed. -/
theorem rebuild_touches_nothing [Library]
    (h : Host.execute (m := StateM Workspace) args l w = (0, w'))
    (hapart : ∀ o d, Library.options args = .ok o →
      Decides o l { w with threshold := threshold o l } d → d.Apart o w')
    (htree : w₁.tree = w'.tree) (hdir : w₁.workDirectory = w'.workDirectory) :
    ∃ w₂, Host.execute (m := StateM Workspace) args l w₁ = (0, w₂) ∧ w₂.tree = w₁.tree ∧
      (∃ text, w'.output = w.output ++ text ∧ w₂.output = w₁.output ++ text) ∧
      ∀ o p u path text, Library.options args = .ok o →
        Reaches o l { w₁ with threshold := threshold o l } p u → p.Refreshes o path text →
        ∃ v, u.run (Host.refresh path text : Job Failure Bool) = (.ok false, v) := by
  match hargs : Library.options args with
  -- texts about the program are printed, and nothing else happens
  | .error .help =>
    rw [Host.execute, hargs] at h ⊢
    cases h
    exact ⟨_, rfl, rfl, ⟨Options.helpText, rfl, rfl⟩, fun _ _ _ _ _ heq => by cases heq⟩
  | .error .version =>
    rw [Host.execute, hargs] at h ⊢
    cases h
    exact ⟨_, rfl, rfl, ⟨versionLine, rfl, rfl⟩, fun _ _ _ _ _ heq => by cases heq⟩
  | .error (.usage e) =>
    rw [Host.execute, hargs] at h
    cases h
  | .ok o =>
    have hend := (execute_eq_zero_iff hargs).1 h
    obtain ⟨d, hd⟩ := exists_decision hend
    have hretraces : ∀ {p u}, Reaches o l { w₁ with threshold := threshold o l } p u →
        Retraces o l { w with threshold := threshold o l } w'
          { w₁ with threshold := threshold o l } p u :=
      retraces_of_reaches hd hend (hapart o d hargs hd) htree hdir
    obtain ⟨w₂, hend₂⟩ := exists_finished fun p u hu => by
      obtain ⟨q, v, hstep, -⟩ := (hretraces hu).exists_step hd hend (hapart o d hargs hd)
      exact ⟨(q, v), hstep⟩
    obtain ⟨⟨u, hu, text, houtput, houtput₂⟩, htree₂, -⟩ := hretraces hend₂
    cases eq_of_steps_finished (hu.completes hend)
    refine ⟨w₂, (execute_eq_zero_iff hargs).2 hend₂, htree₂.trans htree.symm,
      ⟨text, houtput, houtput₂⟩, ?_⟩
    intro o' p u path text hargs' hu hp
    cases hargs'
    exact (hretraces hu).refresh_eq hd hend (hapart o d hargs hd) hp

theorem seed_rebuilt :
    let args := ["--manifest", "m", "--root", "a", "--rust-out", "b"]
    let w : Workspace := .seed Manifest.seedText [] ""
    ∃ w', Host.execute (m := StateM Workspace) args .seed w = (0, w') ∧
      (∀ o d, Library.options args = .ok o →
        Decides o .seed { w with threshold := threshold o .seed } d → d.Apart o w') ∧
      ∃ w₂, Host.execute (m := StateM Workspace) args .seed w' = (0, w₂) ∧ w₂.tree = w'.tree := by
  intro args w
  have hargs : Library.options args = .ok (.seed (some "b")) := by decide
  obtain ⟨table, notes, hend⟩ := finished_seed parse_seedText
  let w' : Workspace :=
    .seed Manifest.seedText [(["o"], .file "x".toUTF8), (["b"], .file table.toUTF8)] notes
  have hrun : Host.execute (m := StateM Workspace) args .seed w = (0, w') :=
    (execute_eq_zero_iff hargs).2 hend
  have hapart : ∀ o d, Library.options args = .ok o →
      Decides o .seed { w with threshold := threshold o .seed } d → d.Apart o w' := by
    intro o d ho hd
    cases hargs.symm.trans ho
    cases eq_of_decides (decides_seed _ parse_seedText) hd
    exact apart_seed
  obtain ⟨w₂, hagain, htree, -⟩ := rebuild_touches_nothing hrun hapart rfl rfl
  exact ⟨w', hrun, hapart, w₂, hagain, htree⟩

end ServiceBoundary
