import ServiceBoundary.Proofs.Requests
import Mathlib.Logic.Relation

/-!
# The stages of a run

A run passes the same stages in the same order, each with what the stages before it have found. The
first stages look at files and compute; after the plan the report is written, then everything else
is computed, and the outputs are written last.

Here the stages stand by themselves, as attempts on a workspace, and the program is seen to do
nothing else: it goes on as long as attempts succeed and fails with the first one that fails.

* `Stage`             the stages, in order;
* `Point`             how far a run has come, and what it has found;
* `Decision.told`     the report of a decision;
* `Decision.writes`   what is written, and in which order;
* `Point.attempt`     the stage that comes next;
* `Reaches`           the points that a run comes to;
* `Follows`           a job that does what the stages do;
* `follows_decide`, `follows_prepare`, `follows_run`   the parts of the program, and all of it.

The library is any, here and in all that is said of runs.
-/

namespace ServiceBoundary
open Relation

/-! ## stages and points -/

/-- the stages of a run -/
inductive Stage where
  | findManifest
  | readManifest
  | findRoots
  | readRoots
  | link
  | count
  | plan
  | report
  | placeTable
  | placeMakeFlags
  | render
  | write
  | print
  | ended
deriving DecidableEq, Repr

namespace Stage

def rank : Stage → Nat
  | findManifest => 0
  | readManifest => 1
  | findRoots => 2
  | readRoots => 3
  | link => 4
  | count => 5
  | plan => 6
  | report => 7
  | placeTable => 8
  | placeMakeFlags => 9
  | render => 10
  | write => 11
  | print => 12
  | ended => 13

instance : LE Stage := ⟨fun s s' => s.rank ≤ s'.rank⟩

instance : LT Stage := ⟨fun s s' => s.rank < s'.rank⟩

instance (s s' : Stage) : Decidable (s ≤ s') := inferInstanceAs (Decidable (s.rank ≤ s'.rank))

instance (s s' : Stage) : Decidable (s < s') := inferInstanceAs (Decidable (s.rank < s'.rank))

theorem eq_of_rank_eq {s s' : Stage} (h : s.rank = s'.rank) : s = s' := by
  cases s <;> cases s' <;> first | rfl | cases h

theorem ne_of_lt_of_le {s s' s'' : Stage} (h : s < s') (h' : s' ≤ s'') : s ≠ s'' := by
  rintro rfl
  exact Nat.lt_irrefl _ (Nat.lt_of_lt_of_le h h')

end Stage

/-- how far a run has come, and what it has found -/
inductive Point where
  /-- nothing is known -/
  | start
  | located (path : String)
  | loaded (path : String) (manifest : Manifest)
  /-- there is a file for the list of roots, or none is needed -/
  | rootsLocated (path : String) (manifest : Manifest) (file : Option String)
  | named (path : String) (manifest : Manifest) (roots : List String)
  | linked (path : String) (manifest : Manifest) (roots : List String) (graph : ModuleGraph)
  | counted (path : String) (manifest : Manifest) (graph : ModuleGraph) (tally : Tally graph)
  | planned (d : Decision)
  /-- the report is there, if it was asked for -/
  | reported (d : Decision)
  /-- it is known where the service table belongs -/
  | tablePlaced (d : Decision) (tablePath : Option String)
  /-- it is known where both fragments belong, and some templates are rendered -/
  | rendering (d : Decision) (tablePath makePath : Option String) (done : List RenderedTemplate)
    (entries : List TemplateEntry)
  /-- all texts are there; some of them are still to be written -/
  | writing (out : Outputs) (rest : List Delivery)
  | written (out : Outputs)
  /-- everything is printed -/
  | finished

/-- the path, if there is anything -/
def Workspace.locate (w : Workspace) (path : String) (e : LocationError) :
    Except Failure String :=
  if (w.tree.find? (w.absolute path)).isSome then .ok path else .error (.ofCause (.location e))

/-- the file with the list of roots, if one is looked for -/
def Workspace.locateRoots (w : Workspace) : (candidate : Option String) →
    Except Failure (Option String)
  | none => .ok none
  | some file => (w.locate file (.noRoots file)).map some

def Workspace.manifestAt [Library] (w : Workspace) (path : String) : Except Failure Manifest := do
  let source ← (w.tree.readText (w.absolute path)).mapError fun e => ⟨[.readManifest path], .file e⟩
  (Manifest.parse source).mapError fun e => ⟨[.parseManifest path], .document e⟩

def Workspace.rootsAt [Library] (w : Workspace) (path : String) : Except Failure (List String) := do
  let source ← (w.tree.readText (w.absolute path)).mapError fun e => ⟨[.readRoots path], .file e⟩
  (RootList.parse source).mapError fun e => ⟨[.parseRoots path], .document e⟩

/-- the file of the path is brought up to date with the text -/
def Workspace.updated (w : Workspace) (path text : String) : Except Failure Unit × Workspace :=
  w.run (discard (Host.refresh path text))

/-- an output is brought up to date; where it is one of a template, its failure tells of which -/
def Workspace.delivered (w : Workspace) (delivery : Delivery) : Except Failure Unit × Workspace :=
  let (updated, v) := w.updated delivery.path delivery.text
  let tasks := delivery.template.toList.map Task.writeOutput
  (updated.mapError fun f => { f with tasks := tasks ++ f.tasks }, v)

/-- the report of a decision, if it is asked for: in its file, or told where it has none -/
def Decision.told (o : Options) (d : Decision) (w : Workspace) : Except Failure Unit × Workspace :=
  if o.report = .off then (.ok (), w)
  else
    match d.tally.report d.plan o.report, o.reportFile with
    | .error e, _ => (.error (.ofCause (.planning e)), w)
    | .ok text, none => (.ok (), { w with notes := w.notes ++ text })
    | .ok text, some path => w.updated path text

/-- What is written, and in which order: the service table, the make fragment, the templates as the
manifest lists them. If no fragment has a file or printing was asked for, nothing is. -/
def Decision.writes (o : Options) (d : Decision) (tablePath makePath : Option String)
    (templates : List RenderedTemplate) : List Delivery :=
  let table := Fragment.serviceTable d.manifest.emission.style d.plan
  let flags := Fragment.makeFlags d.manifest.emission.style d.plan
  let others := templates.map fun t => ⟨some t.name, t.output, t.text⟩
  match o.toOutput, tablePath, makePath with
  | false, some path, some path' => ⟨none, path, table⟩ :: ⟨none, path', flags⟩ :: others
  | false, some path, none => ⟨none, path, table⟩ :: others
  | false, none, some path' => ⟨none, path', flags⟩ :: others
  | _, _, _ => []

/-- the outputs of a decision -/
def Decision.outputs (o : Options) (d : Decision) (tablePath makePath : Option String)
    (templates : List RenderedTemplate) : Outputs where
  document := if o.json then some (Fragment.document d.plan) else none
  serviceTable := Fragment.serviceTable d.manifest.emission.style d.plan
  tablePath
  makeFlags := Fragment.makeFlags d.manifest.emission.style d.plan
  makePath
  templates

theorem run_tellReport {o : Options} {d : Decision} {w : Workspace} :
    w.run (Host.tellReport o d) = d.told o w := by
  unfold Host.tellReport Decision.told
  split
  · next hoff =>
    rw [if_pos hoff]
    rfl
  · next hmode =>
    rw [if_neg hmode]
    match d.tally.report d.plan o.report, o.reportFile with
    | .error e, _ => exact Workspace.run_bind_of_error rfl
    | .ok text, none => exact Workspace.run_bind_of_ok rfl
    | .ok text, some path => exact Workspace.run_bind_of_ok rfl

theorem run_deliver {w : Workspace} {delivery : Delivery} :
    w.run (Host.deliver delivery) = w.delivered delivery := by
  unfold Host.deliver
  split
  · next htemplate =>
    rw [Workspace.delivered, Workspace.updated, htemplate]
    match w.run (discard (Host.refresh delivery.path delivery.text)) with
    | (.ok _, _) => rfl
    | (.error _, _) => rfl
  · next name htemplate =>
    rw [Workspace.delivered, Workspace.updated, htemplate]
    rfl

theorem writes_eq_files {o : Options} {d : Decision} {tablePath makePath : Option String}
    {templates : List RenderedTemplate} : d.writes o tablePath makePath templates =
      (d.outputs o tablePath makePath templates).files o := by
  rw [Outputs.files, Outputs.isPrinted, Decision.outputs, Outputs.deliveries]
  cases htoOutput : o.toOutput <;> cases tablePath <;> cases makePath <;>
    simp [Decision.writes, htoOutput]

/-- the template of an entry, with what is in its file -/
def Decision.rendered [Library] (d : Decision) (w : Workspace) (entry : TemplateEntry) :
    Except Failure RenderedTemplate := do
  let source ← (d.locator.resolve entry.source).mapError fun e =>
    ⟨[.resolveSource entry.name entry.source], .placeholder e⟩
  let output ← (d.locator.resolve entry.output).mapError fun e =>
    ⟨[.resolveOutput entry.name entry.output], .placeholder e⟩
  let template ← (w.tree.readText (w.absolute source)).mapError fun e =>
    ⟨[.readTemplate entry.name source], .file e⟩
  let text ← (d.plan.render d.locator.baseDirectory template).mapError fun e =>
    ⟨[.render entry.name source], .template e⟩
  return { name := entry.name, output, text }

namespace Point

/-- the stage that comes next -/
def stage : Point → Stage
  | start => .findManifest
  | located .. => .readManifest
  | loaded .. => .findRoots
  | rootsLocated .. => .readRoots
  | named .. => .link
  | linked .. => .count
  | counted .. => .plan
  | planned .. => .report
  | reported .. => .placeTable
  | tablePlaced .. => .placeMakeFlags
  | rendering .. => .render
  | writing .. => .write
  | written .. => .print
  | finished => .ended

/-- The stage that comes next: the point after it or the failure, and the workspace it leaves. Only
the report, the writing of outputs and the printing do more to the workspace than telling. -/
def attempt [Library] (o : Options) (l : Locator) (w : Workspace) :
    Point → Except Failure Point × Workspace
  | start =>
    let (source, path) := l.manifestCandidate o.manifest
    ((w.locate path (.noManifest source path)).map located, w)
  | located path => ((w.manifestAt path).map (loaded path), w)
  | loaded path manifest =>
    ((w.locateRoots ((l.withManifest path).rootsCandidate o.rootsFile)).map
      (rootsLocated path manifest), w)
  | rootsLocated path manifest none => (.ok (named path manifest o.roots), w)
  | rootsLocated path manifest (some file) =>
    ((w.rootsAt file).map fun names => named path manifest (names ++ o.roots), w)
  | named path manifest roots =>
    (((ModuleGraph.link manifest.tasks).mapError fun e => ⟨[.link path], .link e⟩).map
        (linked path manifest roots),
      (ModuleGraph.linkEvents manifest.tasks).foldl Workspace.tell w)
  | linked path manifest roots graph =>
    (((Tally.ofRoots graph roots).mapError fun e => .ofCause (.planning e)).map
        (counted path manifest graph),
      (Tally.events graph roots).foldl Workspace.tell w)
  | counted path manifest graph tally =>
    let policy := o.policy.getD manifest.policy
    (((tally.plan policy).mapError fun e => .ofCause (.planning e)).map fun plan =>
        planned { locator := l.withManifest path, manifest, graph, tally, plan },
      match tally.plan policy with
      | .ok plan => w.tell (.planned graph.size plan.components.length policy)
      | .error _ => w)
  | planned d =>
    let (told, w) := d.told o w
    (told.map fun _ => reported d, w)
  | reported d =>
    (((d.locator.outputPath o.serviceTable d.manifest.emission.serviceTable).mapError fun e =>
      .ofCause (.placeholder e)).map (tablePlaced d), w)
  | tablePlaced d tablePath =>
    (((d.locator.outputPath o.makeFlags d.manifest.emission.makeFlags).mapError fun e =>
      .ofCause (.placeholder e)).map fun makePath =>
        rendering d tablePath makePath [] d.manifest.emission.templates, w)
  | rendering d tablePath makePath done (entry :: entries) =>
    ((d.rendered w entry).map fun t => rendering d tablePath makePath (done ++ [t]) entries, w)
  | rendering d tablePath makePath done [] =>
    let out := d.outputs o tablePath makePath done
    (.ok (writing out (d.writes o tablePath makePath done)), w)
  | writing out (delivery :: rest) =>
    let (delivered, w) := w.delivered delivery
    (delivered.map fun _ => writing out rest, w)
  | writing out [] => (.ok (written out), w)
  | written out => (.ok finished, { w with output := w.output ++ out.printed o })
  | finished => (.ok finished, w)

end Point

variable [Library]

/-- a stage that succeeds -/
def Step (o : Options) (l : Locator) (s s' : Point × Workspace) : Prop :=
  s.1.attempt o l s.2 = (.ok s'.1, s'.2)

/-- what a stage leads to if it succeeds, and why -/
inductive Next (o : Options) (l : Locator) (w : Workspace) : Point → Point → Prop
  | locate {path : String} (h : w.locate (l.manifestCandidate o.manifest).2
      (.noManifest (l.manifestCandidate o.manifest).1 (l.manifestCandidate o.manifest).2) =
        .ok path) : Next o l w .start (.located path)
  | load {path : String} {manifest : Manifest} (h : w.manifestAt path = .ok manifest) :
      Next o l w (.located path) (.loaded path manifest)
  | locateRoots {path : String} {manifest : Manifest} {file : Option String}
      (h : w.locateRoots ((l.withManifest path).rootsCandidate o.rootsFile) = .ok file) :
      Next o l w (.loaded path manifest) (.rootsLocated path manifest file)
  | noRootsFile {path : String} {manifest : Manifest} :
      Next o l w (.rootsLocated path manifest none) (.named path manifest o.roots)
  | loadRoots {path file : String} {manifest : Manifest} {names : List String}
      (h : w.rootsAt file = .ok names) :
      Next o l w (.rootsLocated path manifest (some file)) (.named path manifest (names ++ o.roots))
  | link {path : String} {manifest : Manifest} {roots : List String} {graph : ModuleGraph}
      (h : ModuleGraph.link manifest.tasks = .ok graph) :
      Next o l w (.named path manifest roots) (.linked path manifest roots graph)
  | count {path : String} {manifest : Manifest} {roots : List String} {graph : ModuleGraph}
      {tally : Tally graph} (h : Tally.ofRoots graph roots = .ok tally) :
      Next o l w (.linked path manifest roots graph) (.counted path manifest graph tally)
  | plan {path : String} {manifest : Manifest} {graph : ModuleGraph} {tally : Tally graph}
      {plan : ServicePlan} (h : tally.plan (o.policy.getD manifest.policy) = .ok plan) :
      Next o l w (.counted path manifest graph tally)
        (.planned { locator := l.withManifest path, manifest, graph, tally, plan })
  | report {d : Decision} : Next o l w (.planned d) (.reported d)
  | placeTable {d : Decision} {tablePath : Option String}
      (h : d.locator.outputPath o.serviceTable d.manifest.emission.serviceTable = .ok tablePath) :
      Next o l w (.reported d) (.tablePlaced d tablePath)
  | placeMakeFlags {d : Decision} {tablePath makePath : Option String}
      (h : d.locator.outputPath o.makeFlags d.manifest.emission.makeFlags = .ok makePath) :
      Next o l w (.tablePlaced d tablePath)
        (.rendering d tablePath makePath [] d.manifest.emission.templates)
  | render {d : Decision} {tablePath makePath : Option String} {done : List RenderedTemplate}
      {entry : TemplateEntry} {entries : List TemplateEntry} {template : RenderedTemplate}
      (h : d.rendered w entry = .ok template) :
      Next o l w (.rendering d tablePath makePath done (entry :: entries))
        (.rendering d tablePath makePath (done ++ [template]) entries)
  | rendered {d : Decision} {tablePath makePath : Option String} {done : List RenderedTemplate} :
      Next o l w (.rendering d tablePath makePath done [])
        (.writing (d.outputs o tablePath makePath done) (d.writes o tablePath makePath done))
  | write {out : Outputs} {delivery : Delivery} {rest : List Delivery} :
      Next o l w (.writing out (delivery :: rest)) (.writing out rest)
  | written {out : Outputs} : Next o l w (.writing out []) (.written out)
  | print {out : Outputs} : Next o l w (.written out) .finished
  | stay : Next o l w .finished .finished

theorem next_of_step {o : Options} {l : Locator} {p q : Point} {u v : Workspace}
    (h : Step o l (p, u) (q, v)) : Next o l u p q := by
  have hq : (p.attempt o l u).1 = .ok q := congrArg Prod.fst h
  cases p with
  | start =>
    obtain ⟨_, hpath, rfl⟩ := map_eq_ok_iff.1 hq
    exact .locate hpath
  | located path =>
    obtain ⟨_, hmanifest, rfl⟩ := map_eq_ok_iff.1 hq
    exact .load hmanifest
  | loaded path manifest =>
    obtain ⟨_, hfile, rfl⟩ := map_eq_ok_iff.1 hq
    exact .locateRoots hfile
  | rootsLocated path manifest file =>
    cases file with
    | none =>
      cases hq
      exact .noRootsFile
    | some file =>
      obtain ⟨_, hnames, rfl⟩ := map_eq_ok_iff.1 hq
      exact .loadRoots hnames
  | named path manifest roots =>
    obtain ⟨_, hgraph, rfl⟩ := map_eq_ok_iff.1 hq
    exact .link (mapError_eq_ok_iff.1 hgraph)
  | linked path manifest roots graph =>
    obtain ⟨_, htally, rfl⟩ := map_eq_ok_iff.1 hq
    exact .count (mapError_eq_ok_iff.1 htally)
  | counted path manifest graph tally =>
    obtain ⟨_, hplan, rfl⟩ := map_eq_ok_iff.1 hq
    exact .plan (mapError_eq_ok_iff.1 hplan)
  | planned d =>
    obtain ⟨_, -, rfl⟩ := map_eq_ok_iff.1 hq
    exact .report
  | reported d =>
    obtain ⟨_, htable, rfl⟩ := map_eq_ok_iff.1 hq
    exact .placeTable (mapError_eq_ok_iff.1 htable)
  | tablePlaced d tablePath =>
    obtain ⟨_, hmake, rfl⟩ := map_eq_ok_iff.1 hq
    exact .placeMakeFlags (mapError_eq_ok_iff.1 hmake)
  | rendering d tablePath makePath done entries =>
    cases entries with
    | nil =>
      cases hq
      exact .rendered
    | cons entry entries =>
      obtain ⟨_, htemplate, rfl⟩ := map_eq_ok_iff.1 hq
      exact .render htemplate
  | writing out rest =>
    cases rest with
    | nil =>
      cases hq
      exact .written
    | cons delivery rest =>
      obtain ⟨_, -, rfl⟩ := map_eq_ok_iff.1 hq
      exact .write
  | written out =>
    cases hq
    exact .print
  | finished =>
    cases hq
    exact .stay

/-- A run that finds the workspace `w` comes to the point `p`, and the workspace is `u` then. -/
def Reaches (o : Options) (l : Locator) (w : Workspace) (p : Point) (u : Workspace) : Prop :=
  ReflTransGen (Step o l) (.start, w) (p, u)

/-- what holds at the start and after every stage that succeeds, holds at all points of a run -/
@[elab_as_elim]
theorem Reaches.induction {o : Options} {l : Locator} {w : Workspace}
    {motive : Point → Workspace → Prop} (start : motive .start w)
    (step : ∀ {p u q v}, Reaches o l w p u → Step o l (p, u) (q, v) → motive p u → motive q v)
    {p : Point} {u : Workspace} (h : Reaches o l w p u) : motive p u := by
  have hpair : ∀ s, ReflTransGen (Step o l) (.start, w) s → motive s.1 s.2 := by
    intro s hs
    induction hs with
    | refl => exact start
    | tail hs hstep ih => exact step hs hstep ih
  exact hpair (p, u) h

/-! ## jobs that do what the stages do -/

/-- The job does what the stages do from the point on: if it succeeds, they come to the next point,
and if it fails, they come to one where the attempt fails in the same way. -/
structure Follows (o : Options) (l : Locator) (p : Point) {α : Type} (x : Job Failure α)
    (next : α → Point) : Prop where
  ok : ∀ {u v : Workspace} {a : α}, u.run x = (.ok a, v) →
    ReflTransGen (Step o l) (p, u) (next a, v)
  error : ∀ {u v : Workspace} {f : Failure}, u.run x = (.error f, v) →
    ∃ s, ReflTransGen (Step o l) (p, u) s ∧ s.1.attempt o l s.2 = (.error f, v)

variable {o : Options} {l : Locator} {p q : Point} {α β : Type} {x : Job Failure α}
  {f : α → Job Failure β} {next : α → Point} {next' : β → Point}

theorem follows_of_attempt
    (h : ∀ u, p.attempt o l u = ((u.run x).1.map next, (u.run x).2)) : Follows o l p x next where
  ok {u v a} hu := .single (by rw [Step, h, hu]; rfl)
  error {u v f} hu := ⟨(p, u), .refl, by rw [h, hu]; rfl⟩

theorem follows_of_look {r : Workspace → Except Failure α} (hx : ∀ u, u.run x = (r u, u))
    (hp : ∀ u, p.attempt o l u = ((r u).map next, u)) : Follows o l p x next :=
  follows_of_attempt fun u => by rw [hx, hp]

theorem follows_of_told {events : List Event} {r : Except Failure α}
    (hx : ∀ u : Workspace, u.run x = (r, u))
    (hp : ∀ u, p.attempt o l u = (r.map next, events.foldl Workspace.tell u)) :
    Follows o l p (do Host.logAll events; x) next :=
  follows_of_attempt fun u => by
    rw [Workspace.run_bind_of_ok (Workspace.run_logAll events), hx, hp]

theorem follows_pure {a : α} (h : next a = p) : Follows o l p (pure a) next where
  ok hu := by
    cases hu
    rw [h]
  error hu := by cases hu

theorem Follows.bind (hx : Follows o l p x next) (hf : ∀ a, Follows o l (next a) (f a) next') :
    Follows o l p (x >>= f) next' where
  ok {u v b} hu := by
    match hfirst : u.run x with
    | (.ok a, mid) =>
      rw [Workspace.run_bind_of_ok hfirst] at hu
      exact (hx.ok hfirst).trans ((hf a).ok hu)
    | (.error e, mid) =>
      rw [Workspace.run_bind_of_error hfirst] at hu
      cases hu
  error {u v e} hu := by
    match hfirst : u.run x with
    | (.ok a, mid) =>
      rw [Workspace.run_bind_of_ok hfirst] at hu
      obtain ⟨s, hs, hfail⟩ := (hf a).error hu
      exact ⟨s, (hx.ok hfirst).trans hs, hfail⟩
    | (.error e', mid) =>
      rw [Workspace.run_bind_of_error hfirst] at hu
      cases hu
      exact hx.error hfirst

theorem Follows.head (h : ∀ u, Step o l (p, u) (q, u)) (hx : Follows o l q x next) :
    Follows o l p x next where
  ok hu := .head (h _) (hx.ok hu)
  error hu := by
    obtain ⟨s, hs, hfail⟩ := hx.error hu
    exact ⟨s, .head (h _) hs, hfail⟩

/-! ## the decision -/

section
variable {path : String} {manifest : Manifest} {roots : List String} {graph : ModuleGraph}
  {tally : Tally graph}

theorem follows_findManifest :
    Follows o l .start (Host.findManifest l o.manifest) .located :=
  follows_of_look (fun _ => Workspace.run_present ..) fun _ => rfl

theorem follows_loadManifest :
    Follows o l (.located path) (Host.loadManifest path) (.loaded path) :=
  follows_of_look (fun _ => Workspace.run_bind_of_look (Workspace.run_readText ..) fun _ =>
    Workspace.run_during ..) fun _ => rfl

theorem follows_findRoots :
    Follows o l (.loaded path manifest) (Host.findRoots (l.withManifest path) o.rootsFile)
      (.rootsLocated path manifest) := by
  refine follows_of_look (fun u => ?_) fun _ => rfl
  unfold Host.findRoots
  match (l.withManifest path).rootsCandidate o.rootsFile with
  | none => rfl
  | some file =>
    refine (Workspace.run_present ..).trans ?_
    rw [Workspace.locateRoots, Workspace.locate]
    split <;> rfl

theorem follows_loadRoots {file : String} :
    Follows o l (.rootsLocated path manifest (some file)) (Host.loadRoots file)
      fun names => .named path manifest (names ++ o.roots) :=
  follows_of_look (fun _ => Workspace.run_bind_of_look (Workspace.run_readText ..) fun _ =>
    Workspace.run_during ..) fun _ => rfl

theorem follows_findRootNames :
    Follows o l (.loaded path manifest) (Host.findRootNames o (l.withManifest path))
      (.named path manifest) := by
  refine follows_findRoots.bind fun file => ?_
  match file with
  | none => exact follows_of_look (fun _ => rfl) fun _ => rfl
  | some file => exact follows_loadRoots.bind fun names => follows_pure rfl

theorem follows_link :
    Follows o l (.named path manifest roots) (do
        Host.logAll (ModuleGraph.linkEvents manifest.tasks)
        Failure.during (.link path) .link (pure (ModuleGraph.link manifest.tasks)))
      (.linked path manifest roots) :=
  follows_of_told (fun _ => Workspace.run_during ..) fun _ => rfl

theorem follows_count :
    Follows o l (.linked path manifest roots graph) (do
        Host.logAll (Tally.events graph roots)
        Failure.orFail .planning (Tally.ofRoots graph roots))
      (.counted path manifest graph) :=
  follows_of_told (fun _ => Workspace.run_orFail ..) fun _ => rfl

theorem follows_plan :
    Follows o l (.counted path manifest graph tally) (do
        let policy := o.policy.getD manifest.policy
        let plan ← Failure.orFail .planning (tally.plan policy)
        Host.log (.planned graph.size plan.components.length policy)
        return { locator := l.withManifest path, manifest, graph, tally, plan })
      .planned := by
  refine follows_of_attempt fun u => ?_
  unfold Point.attempt
  match h : tally.plan (o.policy.getD manifest.policy) with
  | .error e =>
    simp only [h]
    rfl
  | .ok plan =>
    simp only [h]
    rfl

theorem follows_decide : Follows o l .start (Host.decide o l) .planned := by
  refine follows_findManifest.bind fun path => ?_
  refine follows_loadManifest.bind fun manifest => ?_
  refine follows_findRootNames.bind fun roots => ?_
  -- what is told and what is computed then are one stage
  rw [← bind_assoc]
  refine follows_link.bind fun graph => ?_
  rw [← bind_assoc]
  exact follows_count.bind fun tally => follows_plan

end

/-! ## outputs -/

section
variable {d : Decision} {tablePath makePath : Option String} {done : List RenderedTemplate}
  {entry : TemplateEntry} {entries : List TemplateEntry} {out : Outputs} {rest : List Delivery}

theorem follows_tellReport :
    Follows o l (.planned d) (Host.tellReport o d) fun _ => .reported d :=
  follows_of_attempt fun _ => by
    rw [run_tellReport]
    rfl

theorem follows_renderTemplate :
    Follows o l (.rendering d tablePath makePath done (entry :: entries))
      (Host.renderTemplate d.locator d.plan entry)
      fun t => .rendering d tablePath makePath (done ++ [t]) entries := by
  refine follows_of_look (fun u => ?_) fun _ => rfl
  refine Workspace.run_bind_of_look (Workspace.run_during ..) fun source => ?_
  refine Workspace.run_bind_of_look (Workspace.run_during ..) fun output => ?_
  refine Workspace.run_bind_of_look (Workspace.run_readText ..) fun template => ?_
  exact Workspace.run_bind_of_look (Workspace.run_during ..) fun text => rfl

theorem follows_renderTemplates :
    Follows o l (.rendering d tablePath makePath done entries)
      (Host.renderTemplates d.locator d.plan entries)
      fun ts => .rendering d tablePath makePath (done ++ ts) [] := by
  induction entries generalizing done with
  | nil =>
    rw [Host.renderTemplates, List.mapM_nil]
    exact follows_pure (by rw [List.append_nil])
  | cons entry entries ih =>
    rw [Host.renderTemplates, List.mapM_cons]
    refine follows_renderTemplate.bind fun t => ih.bind fun ts => ?_
    exact follows_pure (by rw [List.append_assoc, List.singleton_append])

theorem follows_prepare :
    Follows o l (.reported d) (Host.prepare o d) fun out => .writing out (out.files o) := by
  refine Follows.bind (follows_of_look (fun _ => Workspace.run_orFail ..) fun _ => rfl)
    fun tablePath => ?_
  refine Follows.bind (follows_of_look (fun _ => Workspace.run_orFail ..) fun _ => rfl)
    fun makePath => ?_
  refine follows_renderTemplates.bind fun templates => ?_
  refine follows_of_look (fun _ => rfl) fun u => ?_
  rw [Point.attempt, writes_eq_files]
  rfl

theorem follows_deliveries :
    Follows o l (.writing out rest) (rest.forM Host.deliver) fun _ => .writing out [] := by
  induction rest with
  | nil => exact follows_pure rfl
  | cons delivery rest ih =>
    refine Follows.bind (x := Host.deliver delivery) (follows_of_attempt fun u => ?_) fun _ => ih
    rw [run_deliver]
    rfl

theorem follows_print :
    Follows o l (.written out) (Host.print (out.printed o)) fun _ => .finished :=
  follows_of_attempt fun _ => rfl

end

/-- **The program goes through the stages**, and does nothing else. -/
theorem follows_run : Follows o l .start (Host.run o l) fun _ => .finished := by
  refine follows_decide.bind fun d => ?_
  refine follows_tellReport.bind fun _ => ?_
  refine follows_prepare.bind fun out => ?_
  refine follows_deliveries.bind fun _ => ?_
  exact follows_print.head fun _ => rfl

end ServiceBoundary
