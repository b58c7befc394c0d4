import ServiceBoundary.Proofs.Session
import ServiceBoundary.Proofs.Stages

/-!
# What a run leaves behind

A run that fails tells about its first stage that fails, prints nothing, and leaves files as they
were but for those that the stages before were there to change. Up to the plan that is none. The
report is written before the outputs are placed and rendered, and no output is written before all of
them are.

* `outlined`, `summary_eq`     the summary, where no walk from a service runs in a circle;
* `exists_report`              a plan always has a report;
* `OutputPath`, `MayChange`    the paths that a run may write to;
* `rank_of_step`, `passed_of_lt`   the order of the stages;
* `touches_attempt`            what one stage changes;
* `backed_of_reaches`, `told_of_reaches`, `touches_of_reaches`   what holds at the points of a run;
* `changes_of_failure`         what a run changes that fails;
* `failures_and_frames`        what a command line does to the files.
-/

namespace ServiceBoundary
open Relation

namespace Tally
variable {g : ModuleGraph} {t : Tally g} {names : List String}

/-- the entry of a service in a summary -/
def described (t : Tally g) (m : Fin g.size) (c : Component) : Summary.ServiceEntry where
  name := c.name
  memory := c.resources.memory.length
  dma := c.resources.dma.length
  flags := c.flags.length
  folds := (t.group m).tail.map g.name

theorem serviceEntry_eq {m : Fin g.size} (h : ¬ t.Circles m) (c : Component) :
    t.serviceEntry m c = .ok (t.described m c) := by
  rw [serviceEntry, folded_eq h]
  rfl

/-- the summary of the tally and a plan -/
def outlined (t : Tally g) (plan : ServicePlan) : Summary where
  roots := t.roots.map g.name
  modules := g.ids.map fun m => { name := g.name m, role := t.role m, visits := t.count m }
  planned := plan.components.length
  services := t.standalone.filterMap fun m => (plan.component? (g.name m)).map (t.described m)

theorem summary_eq (h : ∀ m ∈ t.standalone, ¬ t.Circles m) (plan : ServicePlan) :
    t.summary plan = .ok (t.outlined plan) := by
  have hentries : (t.standalone.filterMap fun m =>
      (plan.component? (g.name m)).map (Prod.mk m)).mapM (fun p => t.serviceEntry p.1 p.2) =
        .ok (t.outlined plan).services := by
    rw [mapM_eq_ok_map (h := fun p => t.described p.1 p.2), List.map_filterMap]
    · simp only [Option.map_map]
      rfl
    · rintro ⟨m, c⟩ hm
      obtain ⟨k, hk, hc⟩ := List.mem_filterMap.1 hm
      obtain ⟨_, -, heq⟩ := Option.map_eq_some_iff.1 hc
      cases heq
      exact serviceEntry_eq (h _ hk) _
  exact bind_eq_ok_iff.2 ⟨_, hentries, rfl⟩

theorem exists_report (h : ofRoots g names = .ok t) (plan : ServicePlan) (mode : ReportMode) :
    ∃ text, t.report plan mode = .ok text := by
  have hwalks : ∀ m ∈ t.standalone, ¬ t.Circles m := by
    intro m hm
    have hcount := mem_standalone.1 hm
    exact (orderly_ofRoots h).not_circles (by omega)
  have hs := summary_eq hwalks plan
  cases mode with
  | off => exact ⟨"", rfl⟩
  | summary => exact ⟨_, map_eq_ok_iff.2 ⟨_, hs, rfl⟩⟩
  | full => exact ⟨_, map_eq_ok_iff.2 ⟨_, hs, rfl⟩⟩

end Tally

/-! ## paths -/

/-- the paths of the outputs of a decision -/
inductive OutputPath (o : Options) (d : Decision) : String → Prop
  | table {path : String}
      (h : d.locator.outputPath o.serviceTable d.manifest.emission.serviceTable = .ok (some path)) :
      OutputPath o d path
  | makeFlags {path : String}
      (h : d.locator.outputPath o.makeFlags d.manifest.emission.makeFlags = .ok (some path)) :
      OutputPath o d path
  | template {path : String} (entry : TemplateEntry) (h : entry ∈ d.manifest.emission.templates)
      (hpath : d.locator.resolve entry.output = .ok path) : OutputPath o d path

variable {o : Options} {l : Locator} {w u v : Workspace} {p q : Point} {f : Failure} {s : Stage}

theorem outputPath_of_mem_writes {d : Decision} {tablePath makePath : Option String}
    {templates : List RenderedTemplate} {delivery : Delivery}
    (htable : d.locator.outputPath o.serviceTable d.manifest.emission.serviceTable = .ok tablePath)
    (hmake : d.locator.outputPath o.makeFlags d.manifest.emission.makeFlags = .ok makePath)
    (htemplates : ∀ t ∈ templates, OutputPath o d t.output)
    (h : delivery ∈ d.writes o tablePath makePath templates) :
    o.toOutput = false ∧ OutputPath o d delivery.path := by
  have hothers : ∀ delivery ∈ templates.map fun t =>
      (⟨some t.name, t.output, t.text⟩ : Delivery),
      OutputPath o d delivery.path := by
    intro delivery hdelivery
    obtain ⟨t, ht, rfl⟩ := List.mem_map.1 hdelivery
    exact htemplates t ht
  unfold Decision.writes at h
  split at h
  · next hoff =>
    refine ⟨hoff, ?_⟩
    obtain rfl | h := List.mem_cons.1 h
    · exact .table htable
    · obtain rfl | h := List.mem_cons.1 h
      · exact .makeFlags hmake
      · exact hothers _ h
  · next hoff =>
    refine ⟨hoff, ?_⟩
    obtain rfl | h := List.mem_cons.1 h
    · exact .table htable
    · exact hothers _ h
  · next hoff =>
    refine ⟨hoff, ?_⟩
    obtain rfl | h := List.mem_cons.1 h
    · exact .makeFlags hmake
    · exact hothers _ h
  · cases h

/-- the paths that the stage which comes next may write to -/
def Point.paths (o : Options) : Point → String → Prop
  | planned _, path => o.reportFile = some path
  | writing _ (delivery :: _), path => path = delivery.path
  | _, _ => False

theorem touches_updated (path text : String) :
    u.Touches (· = path) (u.updated path text).2 :=
  Workspace.touching_discard (Workspace.touching_refresh path text) u

theorem touches_told (d : Decision) :
    u.Touches (fun path => o.reportFile = some path) (d.told o u).2 := by
  unfold Decision.told
  split
  · exact .refl u
  · split
    · exact .refl u
    · next text _ _ => exact .of_told ⟨text, rfl⟩
    · next path _ hpath =>
      refine (touches_updated path _).mono ?_
      rintro _ rfl
      exact hpath

variable [Library]

/-- the run makes this decision -/
def Decides (o : Options) (l : Locator) (w : Workspace) (d : Decision) : Prop :=
  ∃ u, Reaches o l w (.planned d) u

/-- the paths that a run may write to -/
def MayChange (o : Options) (l : Locator) (w : Workspace) (path : String) : Prop :=
  o.reportFile = some path ∨
    o.toOutput = false ∧ ∃ d, Decides o l w d ∧ OutputPath o d path

theorem Decision.output_of_rendered {d : Decision} {entry : TemplateEntry} {t : RenderedTemplate}
    (h : d.rendered u entry = .ok t) : d.locator.resolve entry.output = .ok t.output := by
  obtain ⟨source, -, h⟩ := bind_eq_ok_iff.1 h
  obtain ⟨output, houtput, h⟩ := bind_eq_ok_iff.1 h
  obtain ⟨template, -, h⟩ := bind_eq_ok_iff.1 h
  obtain ⟨text, -, h⟩ := bind_eq_ok_iff.1 h
  cases h
  exact mapError_eq_ok_iff.1 houtput

/-! ## single stages -/

/-- **The order of the stages.** Each stage is followed by the next one; only the rendering and the
writing have several parts. -/
theorem rank_of_step (h : Step o l (p, u) (q, v)) :
    q.stage.rank = p.stage.rank + 1 ∨
      q.stage = p.stage ∧ (p.stage = .render ∨ p.stage = .write ∨ p.stage = .ended) := by
  cases next_of_step h with
  | render => exact .inr ⟨rfl, .inl rfl⟩
  | write => exact .inr ⟨rfl, .inr (.inl rfl)⟩
  | stay => exact .inr ⟨rfl, .inr (.inr rfl)⟩
  | _ => exact .inl rfl

/-- most stages do nothing but tell -/
theorem told_attempt (hreport : p.stage ≠ .report) (hwrite : p.stage ≠ .write)
    (hprint : p.stage ≠ .print) : u.Told (p.attempt o l u).2 := by
  cases p with
  | start | located | loaded | reported | tablePlaced | finished => exact .refl u
  | named | linked => exact Workspace.told_foldl_tell _
  | rootsLocated path manifest file => cases file <;> exact .refl u
  | counted path manifest graph tally =>
    simp only [Point.attempt]
    split
    · exact Workspace.told_tell _
    · exact .refl u
  | rendering d tablePath makePath done entries => cases entries <;> exact .refl u
  | planned => exact absurd rfl hreport
  | writing => exact absurd rfl hwrite
  | written => exact absurd rfl hprint

/-- **What one stage changes**, whether it succeeds or fails. -/
theorem touches_attempt (hprint : p.stage ≠ .print) :
    u.Touches (p.paths o) (p.attempt o l u).2 := by
  cases p with
  | planned d => exact touches_told d
  | writing out rest =>
    cases rest with
    | nil => exact .refl u
    | cons delivery rest => exact touches_updated delivery.path delivery.text
  | written => exact absurd rfl hprint
  | _ => exact .of_told (told_attempt nofun nofun nofun)

/-! ## the points of a run -/

/-- what is known at a point about what was found -/
def Point.Backed (o : Options) (decided : Decision → Prop) : Point → Prop
  | counted _ _ graph tally => ∃ names, Tally.ofRoots graph names = .ok tally
  | planned d => ∃ names, Tally.ofRoots d.graph names = .ok d.tally
  | reported d => decided d
  | tablePlaced d tablePath => decided d ∧
    d.locator.outputPath o.serviceTable d.manifest.emission.serviceTable = .ok tablePath
  | rendering d tablePath makePath done entries => decided d ∧
    d.locator.outputPath o.serviceTable d.manifest.emission.serviceTable = .ok tablePath ∧
    d.locator.outputPath o.makeFlags d.manifest.emission.makeFlags = .ok makePath ∧
    (∀ t ∈ done, OutputPath o d t.output) ∧
    ∀ entry ∈ entries, entry ∈ d.manifest.emission.templates
  | writing _ rest => ∀ delivery ∈ rest, o.toOutput = false ∧
    ∃ d, decided d ∧ OutputPath o d delivery.path
  | _ => True

theorem Point.Backed.step {decided : Decision → Prop} (h : p.Backed o decided)
    (hdecided : ∀ d, p = .planned d → decided d) (hstep : Step o l (p, u) (q, v)) :
    q.Backed o decided := by
  cases next_of_step hstep with
  | count htally => exact ⟨_, htally⟩
  | plan => exact h
  | report => exact hdecided _ rfl
  | placeTable htable => exact ⟨h, htable⟩
  | placeMakeFlags hmake => exact ⟨h.1, h.2, hmake, nofun, fun _ hentry => hentry⟩
  | render ht =>
    obtain ⟨hd, htable, hmake, hdone, hentries⟩ := h
    have hentry := hentries _ (List.mem_cons_self ..)
    refine ⟨hd, htable, hmake, fun t' ht' => ?_, fun e he => hentries e (.tail _ he)⟩
    obtain ht' | ht' := List.mem_append.1 ht'
    · exact hdone t' ht'
    · rw [List.mem_singleton.1 ht']
      exact .template _ hentry (Decision.output_of_rendered ht)
  | rendered =>
    obtain ⟨hd, htable, hmake, hdone, -⟩ := h
    intro delivery hdelivery
    obtain ⟨hoff, hpath⟩ := outputPath_of_mem_writes htable hmake hdone hdelivery
    exact ⟨hoff, _, hd, hpath⟩
  | write => exact fun delivery hdelivery => h delivery (.tail _ hdelivery)
  | _ => trivial

theorem backed_of_reaches (h : Reaches o l w p u) : p.Backed o (Decides o l w) := by
  refine Reaches.induction trivial (fun hp hstep ih => ih.step ?_ hstep) h
  rintro d rfl
  exact ⟨_, hp⟩

/-! ## the order of the stages -/

/-- the run got through the stage -/
def Passed (o : Options) (l : Locator) (w : Workspace) (s : Stage) : Prop :=
  ∃ p u q v, Reaches o l w p u ∧ Step o l (p, u) (q, v) ∧ p.stage = s ∧ s < q.stage

theorem rank_le_of_step (h : Step o l (p, u) (q, v)) :
    p.stage.rank ≤ q.stage.rank ∧ q.stage.rank ≤ p.stage.rank + 1 := by
  obtain h | ⟨h, -⟩ := rank_of_step h
  · omega
  · rw [h]
    omega

theorem stage_lt_of_step (h : Step o l (p, u) (q, v)) (hq : q.stage ≤ s) (hrender : s ≠ .render)
    (hwrite : s ≠ .write) (hended : s ≠ .ended) : p.stage < s := by
  have hle : q.stage.rank ≤ s.rank := hq
  obtain h | ⟨h, hp⟩ := rank_of_step h
  · rw [h] at hle
    exact hle
  · refine Nat.lt_of_le_of_ne (h ▸ hle) fun heq => ?_
    rw [Stage.eq_of_rank_eq heq] at hp
    obtain hp | hp | hp := hp
    · exact hrender hp
    · exact hwrite hp
    · exact hended hp

/-- **No stage is left out.** -/
theorem passed_of_lt (h : Reaches o l w p u) (hs : s < p.stage) : Passed o l w s := by
  refine Reaches.induction (motive := fun p _ => s < p.stage → Passed o l w s) ?_ ?_ h hs
  · exact fun hs => absurd hs (Nat.not_lt_zero _)
  · intro p u q v hp hstep ih hs
    by_cases hlt : s < p.stage
    · exact ih hlt
    · have hnear : s.rank < q.stage.rank := hs
      have hfar : ¬ s.rank < p.stage.rank := hlt
      have heq : p.stage.rank = s.rank := by
        have := (rank_le_of_step hstep).2
        omega
      exact ⟨p, u, q, v, hp, hstep, Stage.eq_of_rank_eq heq, hs⟩

/-! ## what a run changes -/

/-- what every stage up to some stage keeps, a run keeps up to there -/
theorem Reaches.keeps {R : Workspace → Workspace → Prop} (hrefl : R w w)
    (htrans : ∀ {u v}, R w u → R u v → R w v)
    (hR : ∀ {p q u v}, Reaches o l w p u → Step o l (p, u) (q, v) → q.stage ≤ s → R u v)
    (h : Reaches o l w p u) (hp : p.stage ≤ s) : R w u := by
  refine Reaches.induction (motive := fun p u => p.stage ≤ s → R w u) (fun _ => hrefl) ?_ h hp
  intro p u q v hpu hstep ih hq
  have hpq : p.stage ≤ s := Nat.le_trans (rank_le_of_step hstep).1 hq
  exact htrans (ih hpq) (hR hpu hstep hq)

theorem told_attempt_of_lt (hp : p.stage < .report) : u.Told (p.attempt o l u).2 :=
  told_attempt (Stage.ne_of_lt_of_le hp (by decide)) (Stage.ne_of_lt_of_le hp (by decide))
    (Stage.ne_of_lt_of_le hp (by decide))

/-- up to the report nothing happens to the workspace but telling -/
theorem told_of_reaches (h : Reaches o l w p u) (hp : p.stage ≤ .report) : w.Told u := by
  refine Reaches.keeps (.refl w) Workspace.Told.trans ?_ h hp
  intro p q u v _ hstep hq
  have htold : u.Told (p.attempt o l u).2 :=
    told_attempt_of_lt (stage_lt_of_step hstep hq nofun nofun nofun)
  rwa [hstep] at htold

theorem touches_attempt_of_le (hp : p.stage ≤ .render) :
    u.Touches (fun path => o.reportFile = some path) (p.attempt o l u).2 := by
  have hprint : p.stage ≠ .print := fun h => absurd (h ▸ hp) (by decide)
  refine (touches_attempt hprint).mono fun path hpath => ?_
  cases p with
  | planned => exact hpath
  | writing out rest => exact absurd hp (Nat.not_succ_le_self _)
  | _ => exact hpath.elim

theorem touches_report_of_reaches (h : Reaches o l w p u) (hp : p.stage ≤ .render) :
    w.Touches (fun path => o.reportFile = some path) u := by
  refine Reaches.keeps (.refl w) Workspace.Touches.trans ?_ h hp
  intro p q u v _ hstep hq
  have htouches : u.Touches (fun path => o.reportFile = some path) (p.attempt o l u).2 :=
    touches_attempt_of_le (Nat.le_trans (rank_le_of_step hstep).1 hq)
  rwa [hstep] at htouches

theorem touches_attempt_of_reaches (h : Reaches o l w p u) (hprint : p.stage ≠ .print) :
    u.Touches (MayChange o l w) (p.attempt o l u).2 := by
  refine (touches_attempt hprint).mono fun path hpath => ?_
  cases p with
  | planned => exact .inl hpath
  | writing out rest =>
    cases rest with
    | nil => exact hpath.elim
    | cons delivery rest =>
      obtain rfl : path = delivery.path := hpath
      exact .inr (backed_of_reaches h delivery (List.mem_cons_self ..))
  | _ => exact hpath.elim

theorem touches_of_reaches (h : Reaches o l w p u) (hp : p.stage ≤ .print) :
    w.Touches (MayChange o l w) u := by
  refine Reaches.keeps (.refl w) Workspace.Touches.trans ?_ h hp
  intro p q u v hpu hstep hq
  have hlt : p.stage < .print := stage_lt_of_step hstep hq nofun nofun nofun
  have htouches : u.Touches (MayChange o l w) (p.attempt o l u).2 :=
    touches_attempt_of_reaches hpu (Stage.ne_of_lt_of_le hlt (Nat.le_refl _))
  rwa [hstep] at htouches

theorem confined_of_finished (h : Reaches o l w .finished u) :
    Workspace.Confined (MayChange o l w) w u := by
  refine Reaches.induction (motive := fun p u => Workspace.Confined (MayChange o l w) w u)
    (fun here hne => absurd rfl hne) ?_ h
  intro p u q v hpu hstep ih
  have hv : (p.attempt o l u).2 = v := congrArg Prod.snd hstep
  subst hv
  cases p with
  | written | finished => exact ih
  | _ =>
    have htouches := touches_of_reaches hpu (Nat.le_of_ble_eq_true rfl)
    exact (htouches.trans (touches_attempt_of_reaches hpu nofun)).confined

theorem stage_le_of_attempt_eq_error (h : p.attempt o l u = (.error f, v)) : p.stage ≤ .write := by
  cases p with
  | written | finished => cases h
  | _ => exact Nat.le_of_ble_eq_true rfl

/-- **What a run changes that fails.** It does not print. -/
theorem changes_of_failure (h : Reaches o l w p u) (hfail : p.attempt o l u = (.error f, v)) :
    w.Touches (MayChange o l w) v ∧ (p.stage ≤ .plan → w.Told v) ∧
      (p.stage ≤ .render → w.Touches (fun path => o.reportFile = some path) v) := by
  have hv : (p.attempt o l u).2 = v := congrArg Prod.snd hfail
  have hle : p.stage ≤ .write := stage_le_of_attempt_eq_error hfail
  have hprint : p.stage ≠ .print := fun hp => absurd (hp ▸ hle) (by decide)
  subst hv
  refine ⟨?_, fun hplan => ?_, fun hrender => ?_⟩
  · exact (touches_of_reaches h (Nat.le_succ_of_le hle)).trans (touches_attempt_of_reaches h hprint)
  · exact (told_of_reaches h (Nat.le_succ_of_le hplan)).trans
      (told_attempt_of_lt (Nat.lt_succ_of_le hplan))
  · exact (touches_report_of_reaches h hrender).trans (touches_attempt_of_le hrender)

/-! ## command lines -/

/-- the exit code, and the workspace after the failure was told -/
def Workspace.exit (w : Workspace) : Except Failure Unit → Nat × Workspace
  | .ok () => (0, w)
  | .error f => (1, { w with notes := w.notes ++ f.report })

theorem execute_eq {args : List String} (h : Library.options args = .ok o) (l : Locator)
    {r : Except Failure Unit}
    (hrun : { w with threshold := threshold o l }.run (Host.run o l) = (r, v)) :
    Host.execute (m := StateM Workspace) args l w = v.exit r := by
  rw [Host.execute, h]
  refine (Workspace.bind_apply (v := { w with threshold := threshold o l }) rfl).trans ?_
  refine (Workspace.bind_apply hrun).trans ?_
  cases r <;> rfl

end ServiceBoundary
