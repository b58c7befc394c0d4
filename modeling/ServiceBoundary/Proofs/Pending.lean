import ServiceBoundary.Proofs.Frames
import ServiceBoundary.Proofs.UpToDate
import Mathlib.Logic.Relator

/-!
# The files of a run

A run is a function of the workspace that it finds: it goes through the same points whenever it is
looked at, and makes one decision. The decision says which files will be brought up to date, the
report first and the outputs after it. Each stage takes at most one of them, so a file that was
brought up to date keeps its text to the end if all of them lie at different places.

* `Decision.written`     the files that a run with this decision brings up to date, in order;
* `Point.Refreshes`      the file that the next stage brings up to date;
* `Point.pending`        the files that are still to come;
* `eq_of_decides`        a run makes one decision;
* `exists_step_iff_of_refreshes`, `same_of_step`   what the stages do to files;
* `pending_of_step`      each stage takes the first of the files that are still to come, or none;
* `holds_of_finished`    in the end each file is up to date, if they lie at different places.
-/

namespace ServiceBoundary
open Relation

variable {o : Options} {l : Locator} {w w' u v : Workspace} {p q : Point} {d d' : Decision}
  {path text : String}

/-! ## runs are functions -/

section
variable [Library]

theorem rightUnique_step : Relator.RightUnique (Step o l) := by
  rintro ⟨p, u⟩ ⟨q, v⟩ ⟨q', v'⟩ h h'
  cases h.symm.trans h'
  rfl

/-- what holds at a point and after every stage that succeeds, holds at all later points -/
@[elab_as_elim]
theorem steps_induction {motive : Point → Workspace → Prop} (start : motive p u)
    (step : ∀ {p' u' q v}, ReflTransGen (Step o l) (p, u) (p', u') →
      Step o l (p', u') (q, v) → motive p' u' → motive q v)
    (h : ReflTransGen (Step o l) (p, u) (q, v)) : motive q v := by
  have hpair : ∀ s, ReflTransGen (Step o l) (p, u) s → motive s.1 s.2 := by
    intro s hs
    induction hs with
    | refl => exact start
    | tail hs hstep ih => exact step hs hstep ih
  exact hpair (q, v) h

theorem eq_of_steps_finished (h : ReflTransGen (Step o l) (.finished, u) (q, v)) :
    (q, v) = (.finished, u) := by
  refine steps_induction (motive := fun q v => (q, v) = (.finished, u)) rfl ?_ h
  intro p' u' q v _ hstep ih
  rw [ih] at hstep
  exact rightUnique_step hstep (rfl : Step o l (.finished, u) (.finished, u))

theorem Reaches.completes (h : Reaches o l w p u) (hend : Reaches o l w .finished w') :
    ReflTransGen (Step o l) (p, u) (.finished, w') := by
  obtain hgo | hback := ReflTransGen.total_of_right_unique rightUnique_step h hend
  · exact hgo
  · rw [eq_of_steps_finished hback]

theorem rank_le_of_steps (h : ReflTransGen (Step o l) (p, u) (q, v)) :
    p.stage.rank ≤ q.stage.rank := by
  refine steps_induction (motive := fun q _ => p.stage.rank ≤ q.stage.rank) (Nat.le_refl _) ?_ h
  exact fun _ hstep ih => ih.trans (rank_le_of_step hstep).1

/-- **A run makes one decision.** -/
theorem eq_of_decides (h : Decides o l w d) (h' : Decides o l w d') : d = d' := by
  have hlater : ∀ {d d' : Decision} {u v : Workspace},
      ReflTransGen (Step o l) (.planned d, u) (.planned d', v) → d = d' := by
    intro d d' u v hsteps
    obtain heq | ⟨⟨q, x⟩, hstep, hrest⟩ := hsteps.cases_head
    · cases heq
      rfl
    · cases next_of_step hstep
      exact absurd (rank_le_of_steps hrest) (Nat.not_succ_le_self _)
  obtain ⟨u, hu⟩ := h
  obtain ⟨v, hv⟩ := h'
  obtain hgo | hback := ReflTransGen.total_of_right_unique rightUnique_step hu hv
  · exact hlater hgo
  · exact (hlater hback).symm

end

/-! ## what the stages bring up to date -/

/-- the stage that comes next brings the file of the path up to date with the text -/
inductive Point.Refreshes (o : Options) : Point → String → String → Prop
  | report {d : Decision} {path text : String} (hmode : o.report ≠ .off)
      (hfile : o.reportFile = some path) (htext : d.tally.report d.plan o.report = .ok text) :
      Refreshes o (.planned d) path text
  | delivery {out : Outputs} {delivery : Delivery} {rest : List Delivery} :
      Refreshes o (.writing out (delivery :: rest)) delivery.path delivery.text

theorem told_eq_updated (h : (Point.planned d).Refreshes o path text) :
    d.told o u = u.updated path text := by
  cases h with
  | report hmode hfile htext => rw [Decision.told, if_neg hmode, htext, hfile]

theorem updated_eq_ok_iff : u.updated path text = (.ok (), v) ↔
    ∃ changed, u.run (Host.refresh path text : Job Failure Bool) = (.ok changed, v) :=
  Workspace.run_discard_eq_ok_iff

theorem delivered_eq_ok_iff {delivery : Delivery} : u.delivered delivery = (.ok (), v) ↔
    u.updated delivery.path delivery.text = (.ok (), v) := by
  rw [Workspace.delivered, Prod.mk.injEq, mapError_eq_ok_iff]
  exact ⟨fun h => Prod.ext h.1 h.2, fun h => ⟨congrArg Prod.fst h, congrArg Prod.snd h⟩⟩

theorem exists_told (h : d.told o u = (.ok (), v))
    (hp : ∀ path text, ¬ (Point.planned d).Refreshes o path text) :
    ∃ more, ∀ w : Workspace, d.told o w = (.ok (), { w with notes := w.notes ++ more }) := by
  unfold Decision.told at h ⊢
  split at h
  · next hoff =>
    refine ⟨"", fun w => ?_⟩
    rw [if_pos hoff, String.append_empty]
  · next hmode =>
    split at h
    · cases h
    · next text htext hfile => exact ⟨text, fun w => if_neg hmode⟩
    · next text path htext hfile => exact absurd (.report hmode hfile htext) (hp path text)

section
variable [Library]

/-- **A stage that brings a file up to date** does nothing else. -/
theorem exists_step_iff_of_refreshes (h : p.Refreshes o path text) :
    (∃ q, Step o l (p, u) (q, v)) ↔
      ∃ changed, u.run (Host.refresh path text : Job Failure Bool) = (.ok changed, v) := by
  have hmap : ∀ (told : Except Failure Unit × Workspace) (next : Point),
      (∃ q, (told.1.map fun _ => next, told.2) = (Except.ok q, v)) ↔ told = (.ok (), v) := by
    intro told next
    constructor
    · rintro ⟨q, hq⟩
      obtain ⟨hfst, hsnd⟩ := Prod.mk.inj hq
      obtain ⟨_, htold, -⟩ := map_eq_ok_iff.1 hfst
      exact Prod.ext htold hsnd
    · rintro rfl
      exact ⟨next, rfl⟩
  cases h with
  | report hmode hfile htext =>
    rw [← updated_eq_ok_iff, ← told_eq_updated (.report hmode hfile htext)]
    exact hmap _ _
  | @delivery out delivery rest =>
    rw [← updated_eq_ok_iff, ← delivered_eq_ok_iff]
    exact hmap (u.delivered delivery) (.writing out rest)

/-- **The other stages leave all files alone.** -/
theorem same_of_step (h : Step o l (p, u) (q, v)) (hp : ∀ path text, ¬ p.Refreshes o path text) :
    v.tree = u.tree ∧ v.workDirectory = u.workDirectory := by
  have hfst : (p.attempt o l u).1 = .ok q := congrArg Prod.fst h
  have hsnd : (p.attempt o l u).2 = v := congrArg Prod.snd h
  have hquiet : u.Told v → v.tree = u.tree ∧ v.workDirectory = u.workDirectory := by
    rintro ⟨more, rfl⟩
    exact ⟨rfl, rfl⟩
  cases p with
  | planned d =>
    obtain ⟨_, hok, -⟩ := map_eq_ok_iff.1 hfst
    have htold : d.told o u = (.ok (), v) := Prod.ext hok hsnd
    obtain ⟨more, hmore⟩ := exists_told htold hp
    exact hquiet ⟨more, congrArg Prod.snd (htold.symm.trans (hmore u))⟩
  | writing out rest =>
    cases rest with
    | nil => exact hquiet (hsnd ▸ .refl u)
    | cons delivery rest => exact absurd .delivery (hp delivery.path delivery.text)
  | written =>
    subst hsnd
    exact ⟨rfl, rfl⟩
  | _ => exact hquiet (hsnd ▸ told_attempt nofun nofun nofun)

theorem refreshes_or_same_of_step (h : Step o l (p, u) (q, v)) :
    (∃ path text changed, p.Refreshes o path text ∧
      u.run (Host.refresh path text : Job Failure Bool) = (.ok changed, v)) ∨
    v.tree = u.tree ∧ v.workDirectory = u.workDirectory := by
  by_cases hp : ∃ path text, p.Refreshes o path text
  · obtain ⟨path, text, hp⟩ := hp
    obtain ⟨changed, hrun⟩ := (exists_step_iff_of_refreshes hp).1 ⟨q, h⟩
    exact .inl ⟨path, text, changed, hp, hrun⟩
  · exact .inr (same_of_step h fun path text hr => hp ⟨path, text, hr⟩)

theorem grows_of_step (h : Step o l (p, u) (q, v)) : u.Grows v := by
  obtain ⟨path, text, changed, -, hrun⟩ | ⟨htree, hdir⟩ := refreshes_or_same_of_step h
  · have htouches := Workspace.touching_refresh path text u
    rw [hrun] at htouches
    exact htouches.toGrows
  · exact ⟨htree ▸ .refl _, hdir⟩

theorem grows_of_steps (h : ReflTransGen (Step o l) (p, u) (q, v)) : u.Grows v :=
  steps_induction (motive := fun _ v => u.Grows v) (.refl u)
    (fun _ hstep ih => ih.trans (grows_of_step hstep)) h

end

/-! ## what is still to come -/

/-- the file of the report, if it is asked for and has one -/
def Options.reportFiles (o : Options) : List String :=
  if o.report = .off then [] else o.reportFile.toList

/-- the files of outputs with these paths, unless they are printed -/
def Options.outputFiles (o : Options) (tablePath makePath : Option String)
    (templatePaths : List String) : List String :=
  if o.toOutput || tablePath.isNone && makePath.isNone then []
  else tablePath.toList ++ makePath.toList ++ templatePaths

namespace Decision

def tablePath (o : Options) (d : Decision) : Option String :=
  (d.locator.outputPath o.serviceTable d.manifest.emission.serviceTable).toOption.join

def makePath (o : Options) (d : Decision) : Option String :=
  (d.locator.outputPath o.makeFlags d.manifest.emission.makeFlags).toOption.join

/-- where the outputs of some templates belong -/
def templatePaths (d : Decision) (entries : List TemplateEntry) : List String :=
  entries.filterMap fun entry => (d.locator.resolve entry.output).toOption

/-- the files that a run with this decision brings up to date, in order -/
def written (o : Options) (d : Decision) : List String :=
  o.reportFiles ++
    o.outputFiles (d.tablePath o) (d.makePath o) (d.templatePaths d.manifest.emission.templates)

end Decision

/-- the files that are still to be brought up to date, once there is a decision -/
def Point.pending (o : Options) : Point → List String
  | planned d => d.written o
  | reported d =>
    o.outputFiles (d.tablePath o) (d.makePath o) (d.templatePaths d.manifest.emission.templates)
  | tablePlaced d tablePath =>
    o.outputFiles tablePath (d.makePath o) (d.templatePaths d.manifest.emission.templates)
  | rendering d tablePath makePath done entries =>
    o.outputFiles tablePath makePath (done.map RenderedTemplate.output ++ d.templatePaths entries)
  | writing _ rest => rest.map Delivery.path
  | _ => []

theorem map_path_writes (tablePath makePath : Option String) (templates : List RenderedTemplate) :
    (d.writes o tablePath makePath templates).map Delivery.path =
      o.outputFiles tablePath makePath (templates.map RenderedTemplate.output) := by
  unfold Decision.writes Options.outputFiles
  cases o.toOutput <;> cases tablePath <;> cases makePath <;> simp

theorem mem_pending_of_refreshes (h : p.Refreshes o path text) : path ∈ p.pending o := by
  cases h with
  | report hmode hfile htext =>
    refine List.mem_append_left _ ?_
    rw [Options.reportFiles, if_neg hmode, hfile]
    exact List.mem_singleton_self _
  | delivery => exact List.mem_cons_self

theorem report_le_of_refreshes (h : p.Refreshes o path text) : .report ≤ p.stage := by
  cases h <;> exact Nat.le_of_ble_eq_true rfl

variable [Library]

/-- **Each file comes once.** The first pending file is the next one to be brought up to date. -/
theorem pending_of_step (h : Step o l (p, u) (q, v)) (hp : .report ≤ p.stage) :
    q.pending o <:+ p.pending o ∧
      ∀ path text, p.Refreshes o path text → p.pending o = path :: q.pending o := by
  cases next_of_step h with
  | report =>
    refine ⟨List.suffix_append _ _, ?_⟩
    rintro _ _ ⟨hmode, hfile, -⟩
    rw [Point.pending, Decision.written, Options.reportFiles, if_neg hmode, hfile]
    rfl
  | placeTable htable =>
    refine ⟨?_, nofun⟩
    rw [Point.pending, Point.pending, Decision.tablePath, htable]
    exact List.suffix_refl _
  | placeMakeFlags hmake =>
    refine ⟨?_, nofun⟩
    rw [Point.pending, Point.pending, Decision.makePath, hmake]
    exact List.suffix_refl _
  | @render d tablePath makePath done entry entries t ht =>
    have houtput : d.templatePaths (entry :: entries) = t.output :: d.templatePaths entries := by
      rw [Decision.templatePaths, List.filterMap_cons, Decision.output_of_rendered ht]
      rfl
    refine ⟨?_, nofun⟩
    rw [Point.pending, Point.pending, houtput, List.map_append, List.append_assoc]
    exact List.suffix_refl _
  | @rendered d tablePath makePath done =>
    refine ⟨?_, nofun⟩
    rw [Point.pending, Point.pending, map_path_writes, Decision.templatePaths, List.filterMap_nil,
      List.append_nil]
  | write =>
    refine ⟨List.suffix_cons _ _, ?_⟩
    rintro _ _ ⟨⟩
    rfl
  | written => exact ⟨List.suffix_refl _, nofun⟩
  | print => exact ⟨List.suffix_refl _, nofun⟩
  | stay => exact ⟨List.suffix_refl _, nofun⟩
  | _ => exact absurd (Nat.ble_eq_true_of_le hp) Bool.false_ne_true

theorem pending_of_steps (h : ReflTransGen (Step o l) (p, u) (q, v)) (hp : .report ≤ p.stage) :
    q.pending o <:+ p.pending o := by
  refine steps_induction (motive := fun q _ => q.pending o <:+ p.pending o)
    (List.suffix_refl _) ?_ h
  exact fun hs hstep ih =>
    (pending_of_step hstep (Nat.le_trans hp (rank_le_of_steps hs))).1.trans ih

theorem pending_suffix_written (hd : Decides o l w d) (h : Reaches o l w p u)
    (hp : .report ≤ p.stage) : p.pending o <:+ d.written o := by
  refine Reaches.induction
    (motive := fun p _ => .report ≤ p.stage → p.pending o <:+ d.written o) ?_ ?_ h hp
  · exact fun hstart => absurd (Nat.ble_eq_true_of_le hstart) Bool.false_ne_true
  · intro p u q v hpu hstep ih hq
    by_cases hp : .report ≤ p.stage
    · exact (pending_of_step hstep hp).1.trans (ih hp)
    · cases next_of_step hstep with
      | plan =>
        rw [eq_of_decides hd ⟨_, hpu.tail hstep⟩]
        exact List.suffix_refl _
      | _ => first
        | exact absurd (Nat.le_of_ble_eq_true rfl) hp
        | exact absurd (Nat.ble_eq_true_of_le hq) Bool.false_ne_true

theorem mem_written_of_refreshes (hd : Decides o l w d) (h : Reaches o l w p u)
    (hp : p.Refreshes o path text) : path ∈ d.written o :=
  (pending_suffix_written hd h (report_le_of_refreshes hp)).subset (mem_pending_of_refreshes hp)

/-! ## up to the end -/

theorem holds_of_steps (h : ReflTransGen (Step o l) (p, u) (.finished, w'))
    (hu : u.Holds path text)
    (hapart : ∀ q v other text', ReflTransGen (Step o l) (p, u) (q, v) →
      q.Refreshes o other text' → w'.place other ≠ w'.place path) : w'.Holds path text := by
  refine steps_induction (motive := fun q v =>
    ReflTransGen (Step o l) (q, v) (.finished, w') → v.Holds path text) (fun _ => hu) ?_ h .refl
  intro q v q' v' hs hstep ih hrest
  have hholds : v.Holds path text := ih (.head hstep hrest)
  obtain ⟨other, text', changed, hother, hrun⟩ | ⟨htree, hdir⟩ := refreshes_or_same_of_step hstep
  · have htouches := Workspace.touching_refresh other text' v
    rw [hrun] at htouches
    refine htouches.holds hholds fun hsame => ?_
    -- places that paths have by now are those that they have in the end
    obtain ⟨here, hhere⟩ := Workspace.exists_place_of_holds hholds
    have hnow : v'.place path = .ok here := htouches.toGrows.place hhere
    have hgrows : v'.Grows w' := grows_of_steps hrest
    refine hapart q v other text' hs hother ?_
    rw [hgrows.place hnow, hgrows.place (hsame.trans hnow)]
  · exact (Workspace.holds_congr htree hdir).2 hholds

/-- **In the end each file is up to date**, if they lie at different places. -/
theorem holds_of_finished (hd : Decides o l w d) (hend : Reaches o l w .finished w')
    (hapart : (d.written o).Pairwise fun a b => w'.place a ≠ w'.place b)
    (h : Reaches o l w p u) (hp : p.Refreshes o path text) : w'.Holds path text := by
  obtain heq | ⟨⟨q, v⟩, hstep, hrest⟩ := (h.completes hend).cases_head
  · cases heq
    cases hp
  · have hreport : .report ≤ p.stage := report_le_of_refreshes hp
    have hsuffix := pending_suffix_written hd h hreport
    rw [(pending_of_step hstep hreport).2 path text hp] at hsuffix
    have hlast : (path :: q.pending o).Pairwise fun a b => w'.place a ≠ w'.place b :=
      hapart.sublist hsuffix.sublist
    obtain ⟨changed, hrun⟩ := (exists_step_iff_of_refreshes hp).1 ⟨q, hstep⟩
    refine holds_of_steps hrest (Workspace.holds_of_refresh hrun) ?_
    intro q' v' other text' hq' hother
    have hmem : other ∈ q.pending o :=
      (pending_of_steps hq' (Nat.le_trans hreport (rank_le_of_step hstep).1)).subset
        (mem_pending_of_refreshes hother)
    exact (List.rel_of_pairwise_cons hlast hmem).symm

end ServiceBoundary
