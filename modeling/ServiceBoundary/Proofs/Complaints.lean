import ServiceBoundary.Proofs.Expansion
import ServiceBoundary.Proofs.Frames
import ServiceBoundary.Proofs.PlanOutcome
import ServiceBoundary.Proofs.UpToDate

/-!
# What a run that fails complains about

A run stops at the first stage that fails, and the user is told what was wrong there: one message,
or one for the task and one for what came up in it. Here these messages stand by themselves, word by
word, each with the condition under which it is the one that is told. A plan and the text of a
report are always there in a run, so nothing is said about them.

* `Locator.Unexpandable`, `Workspace.Unusable`, `Workspace.Unwritable`   texts, documents and files
                          that something is wrong with;
* `Point.Fails`           what can be wrong at the stage that comes next, and the messages;
* `fails_of_attempt`      a stage that fails does so with these messages;
* `failures_and_frames`   what a command line does to the files, and what it complains about.
-/

namespace ServiceBoundary
open Relation

/-! ## texts and files -/

/-- a text that cannot be expanded, and why -/
inductive Locator.Unexpandable (l : Locator) (raw : String) : (message : String) → Prop
  | unknown {name : String} (h : l.expand raw = .error (.unknown name raw)) :
      Unexpandable l raw ("unknown token: \x7b" ++ name ++ "\x7d in: " ++ raw)
  | unbalanced (h : l.expand raw = .error (.unbalanced raw)) :
      Unexpandable l raw ("unbalanced braces in: " ++ raw)

/-- a file that cannot be brought up to date, and why -/
inductive Workspace.Unwritable (w : Workspace) (path text : String) :
    (messages : List String) → Prop
  | directory {parent : String} {e : FileError} (hparent : Path.parent? path = some parent)
      (h : (w.run (Host.makeDirectories (Path.makeable parent))).1 = .error e) :
      Unwritable w path text ["failed to create directory " ++ parent, e.message]
  | file {u : Workspace} {e : FileError} (hgrows : w.Grows u)
      (h : u.tree.writeText (u.absolute path) text = .error e) :
      Unwritable w path text ["failed to write " ++ path, e.message]

variable {o : Options} {l : Locator} {w u v : Workspace} {p : Point} {f : Failure}
  {path text raw : String}

theorem unexpandable_of_expand {e : Placeholder.ExpandError} (h : l.expand raw = .error e) :
    l.Unexpandable raw e.message := by
  obtain rfl | ⟨name, rfl⟩ := Placeholder.eq_of_expand_eq_error h
  · exact .unbalanced h
  · exact .unknown h

theorem unexpandable_of_resolve {e : Placeholder.ExpandError} (h : l.resolve raw = .error e) :
    l.Unexpandable raw e.message :=
  unexpandable_of_expand (map_eq_error_iff.1 h)

theorem unexpandable_of_outputPath {option configured : Option String}
    {e : Placeholder.ExpandError} (h : l.outputPath option configured = .error e) :
    option = none ∧ ∃ raw, configured = some raw ∧ l.Unexpandable raw e.message := by
  cases option with
  | some path => cases h
  | none =>
    cases configured with
    | none => cases h
    | some raw => exact ⟨rfl, raw, rfl, unexpandable_of_resolve (map_eq_error_iff.1 h)⟩

theorem unwritable_of_write (hgrows : w.Grows u) (h : u.run (do
      Failure.during (.writeFile path) .file (Host.writeText path text)
      Host.log (.wrote path)
      return true : Job Failure Bool) = (.error f, v)) : w.Unwritable path text f.texts := by
  obtain hwrite | ⟨_, _, -, htold⟩ := Workspace.run_bind_eq_error_iff.1 h
  · have hchange : (u.change fun t => t.writeText (u.absolute path) text).1.mapError (fun e =>
        (⟨[.writeFile path], .file e⟩ : Failure)) = .error f := congrArg Prod.fst hwrite
    obtain ⟨e, he, rfl⟩ := mapError_eq_error_iff.1 hchange
    unfold Workspace.change at he
    split at he
    · cases he
    · next he' =>
      cases he
      exact .file hgrows he'
  · cases htold

theorem unwritable_of_refresh
    (h : w.run (Host.refresh path text : Job Failure Bool) = (.error f, v)) :
    w.Unwritable path text f.texts := by
  obtain hread | ⟨found, _, hfound, h⟩ := Workspace.run_bind_eq_error_iff.1 h
  · cases hread
  cases hfound
  split at h
  · cases h
  split at h
  · exact unwritable_of_write (.refl w) h
  · next parent hparent =>
    have htouching : Workspace.Touching (fun _ => False)
        (Host.makeDirectories (Path.makeable parent) : Job FileError Unit) :=
      Workspace.touching_makeDirectories _
    obtain hmake | ⟨_, u, hmade, h⟩ := Workspace.run_bind_eq_error_iff.1 h
    · have hmake : (w.run (Host.makeDirectories (Path.makeable parent))).1.mapError (fun e =>
          (⟨[.makeDirectory parent], .file e⟩ : Failure)) = .error f := congrArg Prod.fst hmake
      obtain ⟨e, he, rfl⟩ := mapError_eq_error_iff.1 hmake
      exact .directory hparent he
    · have hu : (w.run (Host.makeDirectories (Path.makeable parent))).2 = u :=
        congrArg Prod.snd hmade
      exact unwritable_of_write (hu ▸ (htouching w).toGrows) h

theorem unwritable_of_updated (h : (w.updated path text).1 = .error f) :
    w.Unwritable path text f.texts :=
  unwritable_of_refresh (Workspace.run_eq_error_of_discard (Prod.ext h rfl))

theorem locate_eq_error_iff {e : LocationError} : w.locate path e = .error f ↔
    w.tree.find? (w.absolute path) = none ∧ f = .ofCause (.location e) := by
  unfold Workspace.locate
  split
  · next h => exact ⟨nofun, fun hnone => absurd h (by rw [hnone.1]; exact Bool.false_ne_true)⟩
  · next h =>
    rw [Bool.not_eq_true, Option.isSome_eq_false_iff, Option.isNone_iff_eq_none] at h
    exact ⟨fun he => ⟨h, (Except.error.inj he).symm⟩, fun he => congrArg _ he.2.symm⟩

theorem texts_location (e : LocationError) :
    (Failure.ofCause (.location e)).texts = [e.message] := rfl

/-! ## stages -/

section
variable [Library]

/-- a document that cannot be used, and why -/
inductive Workspace.Unusable (w : Workspace) {α : Type} (r : Toml.Record α) (kind path : String) :
    (messages : List String) → Prop
  | unread {e : FileError} (h : w.tree.readText (w.absolute path) = .error e) :
      Unusable w r kind path ["failed to read " ++ kind ++ " " ++ path, e.message]
  | malformed {source : String} {e : Toml.ReadError}
      (hread : w.tree.readText (w.absolute path) = .ok source)
      (h : Library.document source = .error e) :
      Unusable w r kind path ["invalid " ++ kind ++ " " ++ path, "TOML parse error: " ++ e.message]
  | unfit {source : String} {entries : List (String × Toml.Value)} {e : Toml.SchemaError}
      (hread : w.tree.readText (w.absolute path) = .ok source)
      (hentries : Library.document source = .ok entries) (h : r.readTable entries = .error e) :
      Unusable w r kind path ["invalid " ++ kind ++ " " ++ path, "TOML parse error: " ++ e.message]

/-- what can be wrong at the stage that comes next, and the messages that tell it -/
inductive Point.Fails (o : Options) (l : Locator) (w : Workspace) :
    Point → (messages : List String) → Prop
  | manifestOption {path : String} (hpath : l.manifestCandidate o.manifest = (.option, path))
      (h : w.tree.find? (w.absolute path) = none) :
      Fails o l w .start ["--manifest was provided but file does not exist: " ++ path]
  | manifestVariable {path : String} (hpath : l.manifestCandidate o.manifest = (.variable, path))
      (h : w.tree.find? (w.absolute path) = none) :
      Fails o l w .start ["SVCPLAN_MANIFEST is set but file does not exist: " ++ path]
  | manifestConvention {path : String}
      (hpath : l.manifestCandidate o.manifest = (.convention, path))
      (h : w.tree.find? (w.absolute path) = none) :
      Fails o l w .start
        ["no manifest found at " ++ path ++ " (pass --manifest or set SVCPLAN_MANIFEST)"]
  | manifest {path : String} {messages : List String}
      (h : w.Unusable Manifest.record "manifest" path messages) :
      Fails o l w (.located path) messages
  | rootsPath {path file : String} {manifest : Manifest}
      (hfile : (l.withManifest path).rootsCandidate o.rootsFile = some file)
      (h : w.tree.find? (w.absolute file) = none) :
      Fails o l w (.loaded path manifest) ["selection file does not exist: " ++ file]
  | roots {path file : String} {manifest : Manifest} {messages : List String}
      (h : w.Unusable RootList.record "selection file" file messages) :
      Fails o l w (.rootsLocated path manifest (some file)) messages
  | duplicate {path name : String} {manifest : Manifest} {roots : List String}
      (h : ModuleGraph.link manifest.tasks = .error (.duplicateModule name)) :
      Fails o l w (.named path manifest roots) ["failed to load modules from " ++ path,
        "module '" ++ name ++ "' is declared more than once"]
  | unknownDependency {path name dependency : String} {manifest : Manifest} {roots : List String}
      (h : ModuleGraph.link manifest.tasks = .error (.unknownDependency name dependency)) :
      Fails o l w (.named path manifest roots) ["failed to load modules from " ++ path,
        "module '" ++ name ++ "' depends on unknown module '" ++ dependency ++ "'"]
  | noRoots {path : String} {manifest : Manifest} {graph : ModuleGraph} :
      Fails o l w (.linked path manifest [] graph)
        ["no modules selected: need at least one root module to plan"]
  | unknownRoot {path name : String} {manifest : Manifest} {graph : ModuleGraph}
      {before after : List String} (hbefore : ∀ b ∈ before, ∃ m, graph.name m = b)
      (h : ∀ m, graph.name m ≠ name) :
      Fails o l w (.linked path manifest (before ++ name :: after) graph)
        ["selected module '" ++ name ++ "' is not declared in the manifest"]
  | report {d : Decision} {path text : String} {messages : List String} (hmode : o.report ≠ .off)
      (hfile : o.reportFile = some path) (htext : d.tally.report d.plan o.report = .ok text)
      (h : w.Unwritable path text messages) : Fails o l w (.planned d) messages
  | tablePath {d : Decision} {raw message : String} (hoption : o.serviceTable = none)
      (hraw : d.manifest.emission.serviceTable = some raw)
      (h : d.locator.Unexpandable raw message) : Fails o l w (.reported d) [message]
  | makePath {d : Decision} {tablePath : Option String} {raw message : String}
      (hoption : o.makeFlags = none) (hraw : d.manifest.emission.makeFlags = some raw)
      (h : d.locator.Unexpandable raw message) : Fails o l w (.tablePlaced d tablePath) [message]
  | source {d : Decision} {tablePath makePath : Option String} {done : List RenderedTemplate}
      {entry : TemplateEntry} {entries : List TemplateEntry} {message : String}
      (h : d.locator.Unexpandable entry.source message) :
      Fails o l w (.rendering d tablePath makePath done (entry :: entries))
        ["templates." ++ entry.name ++ ": failed to resolve source path: " ++ entry.source, message]
  | output {d : Decision} {tablePath makePath : Option String} {done : List RenderedTemplate}
      {entry : TemplateEntry} {entries : List TemplateEntry} {path message : String}
      (hpath : d.locator.resolve entry.source = .ok path)
      (h : d.locator.Unexpandable entry.output message) :
      Fails o l w (.rendering d tablePath makePath done (entry :: entries))
        ["templates." ++ entry.name ++ ": failed to resolve output path: " ++ entry.output, message]
  | template {d : Decision} {tablePath makePath : Option String} {done : List RenderedTemplate}
      {entry : TemplateEntry} {entries : List TemplateEntry} {path : String} {e : FileError}
      (hpath : d.locator.resolve entry.source = .ok path)
      (houtput : ∃ output, d.locator.resolve entry.output = .ok output)
      (h : w.tree.readText (w.absolute path) = .error e) :
      Fails o l w (.rendering d tablePath makePath done (entry :: entries))
        ["templates." ++ entry.name ++ ": failed to read template file: " ++ path, e.message]
  | text {d : Decision} {tablePath makePath : Option String} {done : List RenderedTemplate}
      {entry : TemplateEntry} {entries : List TemplateEntry} {path source : String}
      {e : Template.RenderError} (hpath : d.locator.resolve entry.source = .ok path)
      (houtput : ∃ output, d.locator.resolve entry.output = .ok output)
      (hread : w.tree.readText (w.absolute path) = .ok source)
      (h : Library.template source (d.plan.names d.locator.baseDirectory) = .error e) :
      Fails o l w (.rendering d tablePath makePath done (entry :: entries))
        ["templates." ++ entry.name ++ ": render failed (" ++ path ++ ")", e.message]
  | fragment {out : Outputs} {path text : String} {rest : List Delivery} {messages : List String}
      (h : w.Unwritable path text messages) :
      Fails o l w (.writing out (⟨none, path, text⟩ :: rest)) messages
  | templateOutput {out : Outputs} {name path text : String} {rest : List Delivery}
      {messages : List String} (h : w.Unwritable path text messages) :
      Fails o l w (.writing out (⟨some name, path, text⟩ :: rest))
        (("templates." ++ name ++ ": failed to write output") :: messages)

/-! ## stages that fail -/

theorem fails_start (h : (Point.start.attempt o l w).1 = .error f) :
    Point.start.Fails o l w f.texts := by
  rcases hpath : l.manifestCandidate o.manifest with ⟨source, path⟩
  rw [Point.attempt, hpath] at h
  obtain ⟨hnone, rfl⟩ := locate_eq_error_iff.1 (map_eq_error_iff.1 h)
  rw [texts_location]
  unfold LocationError.message
  cases source with
  | option => exact .manifestOption hpath hnone
  | «variable» =>
    have hvariable : Locator.manifestVariable ++ " is set but file does not exist: " =
        "SVCPLAN_MANIFEST is set but file does not exist: " := by decide
    dsimp only
    rw [hvariable]
    exact .manifestVariable hpath hnone
  | convention =>
    have hadvice : " (pass --manifest or set " ++ (Locator.manifestVariable ++ ")") =
        " (pass --manifest or set SVCPLAN_MANIFEST)" := by decide
    dsimp only
    rw [String.append_assoc, String.append_assoc, hadvice]
    exact .manifestConvention hpath hnone

theorem unusable_of_error {α : Type} {r : Toml.Record α} {kind : String} {reading parsing : Task}
    (hreading : reading.text = "failed to read " ++ kind ++ " " ++ path)
    (hparsing : parsing.text = "invalid " ++ kind ++ " " ++ path)
    (h : ((w.tree.readText (w.absolute path)).mapError fun e =>
      (⟨[reading], .file e⟩ : Failure)).bind (fun source =>
        (r.parse source).mapError fun e => ⟨[parsing], .document e⟩) = .error f) :
    w.Unusable r kind path f.texts := by
  obtain hread | ⟨source, hread, hparse⟩ := bind_eq_error_iff.1 h
  · obtain ⟨e, he, rfl⟩ := mapError_eq_error_iff.1 hread
    rw [Failure.texts, List.map_singleton, hreading]
    exact .unread he
  · rw [mapError_eq_ok_iff] at hread
    obtain ⟨e, he, rfl⟩ := mapError_eq_error_iff.1 hparse
    rw [Failure.texts, List.map_singleton, hparsing]
    obtain hdoc | ⟨entries, hentries, hunfit⟩ := bind_eq_error_iff.1 he
    · obtain ⟨e, hdocument, rfl⟩ := mapError_eq_error_iff.1 hdoc
      exact .malformed hread hdocument
    · obtain ⟨e, htable, rfl⟩ := mapError_eq_error_iff.1 hunfit
      exact .unfit hread (mapError_eq_ok_iff.1 hentries) htable

theorem fails_located (h : ((Point.located path).attempt o l w).1 = .error f) :
    (Point.located path).Fails o l w f.texts :=
  .manifest (unusable_of_error rfl rfl (map_eq_error_iff.1 h))

theorem fails_loaded {manifest : Manifest}
    (h : ((Point.loaded path manifest).attempt o l w).1 = .error f) :
    (Point.loaded path manifest).Fails o l w f.texts := by
  have hroots := map_eq_error_iff.1 h
  match hfile : (l.withManifest path).rootsCandidate o.rootsFile with
  | none =>
    rw [hfile] at hroots
    cases hroots
  | some file =>
    rw [hfile] at hroots
    obtain ⟨hnone, rfl⟩ := locate_eq_error_iff.1 (map_eq_error_iff.1 hroots)
    exact .rootsPath hfile hnone

theorem fails_rootsLocated {manifest : Manifest} {file : Option String}
    (h : ((Point.rootsLocated path manifest file).attempt o l w).1 = .error f) :
    (Point.rootsLocated path manifest file).Fails o l w f.texts := by
  cases file with
  | none => cases h
  | some file => exact .roots (unusable_of_error rfl rfl (map_eq_error_iff.1 h))

theorem fails_named {manifest : Manifest} {roots : List String}
    (h : ((Point.named path manifest roots).attempt o l w).1 = .error f) :
    (Point.named path manifest roots).Fails o l w f.texts := by
  obtain ⟨e, he, rfl⟩ := mapError_eq_error_iff.1 (map_eq_error_iff.1 h)
  cases e with
  | duplicateModule name => exact .duplicate he
  | unknownDependency name dependency => exact .unknownDependency he

theorem fails_linked {manifest : Manifest} {roots : List String} {graph : ModuleGraph}
    (h : ((Point.linked path manifest roots graph).attempt o l w).1 = .error f) :
    (Point.linked path manifest roots graph).Fails o l w f.texts := by
  obtain ⟨e, he, rfl⟩ := mapError_eq_error_iff.1 (map_eq_error_iff.1 h)
  obtain ⟨rfl, hempty⟩ | ⟨before, name, after, rfl, hbefore, hname, hunknown⟩ | ⟨-, -, t, ht⟩ :=
    Tally.ofRoots_cases graph roots
  · cases he.symm.trans hempty
    exact .noRoots
  · cases he.symm.trans hunknown
    exact .unknownRoot hbefore hname
  · cases he.symm.trans ht

theorem fails_planned {d : Decision} {names : List String}
    (hnames : Tally.ofRoots d.graph names = .ok d.tally)
    (h : ((Point.planned d).attempt o l w).1 = .error f) :
    (Point.planned d).Fails o l w f.texts := by
  obtain ⟨text, htext⟩ := Tally.exists_report hnames d.plan o.report
  have htold : (d.told o w).1 = .error f := map_eq_error_iff.1 h
  unfold Decision.told at htold
  split at htold
  · cases htold
  · next hmode =>
    rw [htext] at htold
    split at htold
    · next he => cases he
    · cases htold
    · next path he hfile =>
      cases he
      exact .report hmode hfile htext (unwritable_of_updated htold)

theorem fails_rendering {d : Decision} {tablePath makePath : Option String}
    {done : List RenderedTemplate} {entries : List TemplateEntry}
    (h : ((Point.rendering d tablePath makePath done entries).attempt o l w).1 = .error f) :
    (Point.rendering d tablePath makePath done entries).Fails o l w f.texts := by
  cases entries with
  | nil => cases h
  | cons entry entries =>
    have h := map_eq_error_iff.1 h
    obtain hsource | ⟨source, hsource, h⟩ := bind_eq_error_iff.1 h
    · obtain ⟨e, he, rfl⟩ := mapError_eq_error_iff.1 hsource
      exact .source (unexpandable_of_resolve he)
    rw [mapError_eq_ok_iff] at hsource
    obtain houtput | ⟨output, houtput, h⟩ := bind_eq_error_iff.1 h
    · obtain ⟨e, he, rfl⟩ := mapError_eq_error_iff.1 houtput
      exact .output hsource (unexpandable_of_resolve he)
    have houtput : ∃ output, d.locator.resolve entry.output = .ok output :=
      ⟨output, mapError_eq_ok_iff.1 houtput⟩
    obtain hread | ⟨template, hread, h⟩ := bind_eq_error_iff.1 h
    · obtain ⟨e, he, rfl⟩ := mapError_eq_error_iff.1 hread
      exact .template hsource houtput he
    obtain htext | ⟨text, -, h⟩ := bind_eq_error_iff.1 h
    · obtain ⟨e, he, rfl⟩ := mapError_eq_error_iff.1 htext
      exact .text hsource houtput (mapError_eq_ok_iff.1 hread) he
    · cases h

theorem fails_writing {out : Outputs} {rest : List Delivery}
    (h : ((Point.writing out rest).attempt o l w).1 = .error f) :
    (Point.writing out rest).Fails o l w f.texts := by
  cases rest with
  | nil => cases h
  | cons delivery rest =>
    obtain ⟨template, path, text⟩ := delivery
    have hdelivered : ((w.updated path text).1.mapError fun f =>
        { f with tasks := template.toList.map Task.writeOutput ++ f.tasks }) = .error f :=
      map_eq_error_iff.1 h
    obtain ⟨f, hf, rfl⟩ := mapError_eq_error_iff.1 hdelivered
    cases template with
    | none => exact .fragment (unwritable_of_updated hf)
    | some name => exact .templateOutput (unwritable_of_updated hf)

/-- **A stage that fails** does so with the messages that tell what is wrong there. -/
theorem fails_of_attempt {decided : Decision → Prop} (hbacked : p.Backed o decided)
    (h : (p.attempt o l w).1 = .error f) : p.Fails o l w f.texts := by
  cases p with
  | start => exact fails_start h
  | located => exact fails_located h
  | loaded => exact fails_loaded h
  | rootsLocated => exact fails_rootsLocated h
  | named => exact fails_named h
  | linked => exact fails_linked h
  | counted path manifest graph tally =>
    obtain ⟨names, hnames⟩ := hbacked
    obtain ⟨e, he, -⟩ := mapError_eq_error_iff.1 (map_eq_error_iff.1 h)
    cases he.symm.trans (Tally.plan_ofRoots hnames _)
  | planned =>
    obtain ⟨names, hnames⟩ := hbacked
    exact fails_planned hnames h
  | reported d =>
    obtain ⟨e, he, rfl⟩ := mapError_eq_error_iff.1 (map_eq_error_iff.1 h)
    obtain ⟨hoption, raw, hraw, hmessage⟩ := unexpandable_of_outputPath he
    exact .tablePath hoption hraw hmessage
  | tablePlaced d tablePath =>
    obtain ⟨e, he, rfl⟩ := mapError_eq_error_iff.1 (map_eq_error_iff.1 h)
    obtain ⟨hoption, raw, hraw, hmessage⟩ := unexpandable_of_outputPath he
    exact .makePath hoption hraw hmessage
  | rendering => exact fails_rendering h
  | writing => exact fails_writing h
  | written => cases h
  | finished => cases h

/-! ## command lines -/

/-- The report fails only if its file cannot be brought up to date. -/
theorem refresh_of_attempt_eq_error {d : Decision} (hd : Reaches o l w (.planned d) u)
    (h : (Point.planned d).attempt o l u = (.error f, v)) :
    ∃ path text, o.reportFile = some path ∧ d.tally.report d.plan o.report = .ok text ∧
      u.run (Host.refresh path text : Job Failure Bool) = (.error f, v) := by
  obtain ⟨names, hnames⟩ := backed_of_reaches hd
  obtain ⟨text, htext⟩ := Tally.exists_report hnames d.plan o.report
  have hfst : ((Point.planned d).attempt o l u).1 = .error f := congrArg Prod.fst h
  have hsnd : ((Point.planned d).attempt o l u).2 = v := congrArg Prod.snd h
  have htold : d.told o u = (.error f, v) := Prod.ext (map_eq_error_iff.1 hfst) hsnd
  unfold Decision.told at htold
  split at htold
  · cases htold
  · rw [htext] at htold
    split at htold
    · next he => cases he
    · cases htold
    · next path he hfile =>
      cases he
      exact ⟨path, text, hfile, htext, Workspace.run_eq_error_of_discard htold⟩

/-- **Failures and frames.** A command line that is accepted runs through the stages in order. It
succeeds if all of them do. Else it tells what is wrong at the first one that fails and prints
nothing, and no file is touched by a failure up to the plan, none but that of the report by one
before the writing. In any case the files that change are that of the report and, unless they are to
be printed, those of the outputs. -/
theorem failures_and_frames {args : List String} (h : Library.options args = .ok o)
    (l : Locator) (w : Workspace) :
    let w₀ : Workspace := { w with threshold := threshold o l }
    ∃ code w', Host.execute (m := StateM Workspace) args l w = (code, w') ∧
      Workspace.Confined (MayChange o l w₀) w w' ∧
      ((code = 0 ∧ Reaches o l w₀ .finished w') ∨
        (code = 1 ∧ ∃ p u f v messages, Reaches o l w₀ p u ∧ p.attempt o l u = (.error f, v) ∧
          (∀ s, s < p.stage → Passed o l w₀ s) ∧ p.Fails o l u messages ∧
          w' = { v with notes := v.notes ++ Library.complaint messages } ∧ w'.output = w.output ∧
          (p.stage ≤ .plan → w'.tree = w.tree) ∧
          (p.stage = .report → ∃ d path text, p = .planned d ∧ o.reportFile = some path ∧
            d.tally.report d.plan o.report = .ok text ∧
            u.run (Host.refresh path text) = (.error f, v)) ∧
          (p.stage ≤ .render →
            Workspace.Confined (fun path => o.reportFile = some path) w w'))) := by
  intro w₀
  have hrun := follows_run (o := o) (l := l)
  match hw : w₀.run (Host.run o l) with
  | (.ok (), v) =>
    have hreach : Reaches o l w₀ .finished v := hrun.ok hw
    refine ⟨0, v, ?_, confined_of_finished hreach, .inl ⟨rfl, hreach⟩⟩
    exact execute_eq h l hw
  | (.error f, v) =>
    obtain ⟨⟨p, u⟩, hreach, hfail⟩ := hrun.error hw
    obtain ⟨htouches, htold, hreport⟩ := changes_of_failure hreach hfail
    have hfails : p.Fails o l u f.texts :=
      fails_of_attempt (backed_of_reaches hreach) (congrArg Prod.fst hfail)
    refine ⟨1, { v with notes := v.notes ++ Library.complaint f.texts }, ?_, htouches.confined,
      .inr ⟨rfl, p, u, f, v, f.texts, hreach, hfail, fun s => passed_of_lt hreach, hfails, rfl,
        htouches.output_eq, fun hplan => ?_, ?_, fun hrender => (hreport hrender).confined⟩⟩
    · exact execute_eq h l hw
    · obtain ⟨more, rfl⟩ := htold hplan
      rfl
    · intro hstage
      cases p with
      | planned d =>
        obtain ⟨path, text, hfile, htext, hrefresh⟩ := refresh_of_attempt_eq_error hreach hfail
        exact ⟨d, path, text, rfl, hfile, htext, hrefresh⟩
      | _ => cases hstage

end

/-- a workspace with a manifest that declares nothing -/
def Workspace.blank : Workspace where
  tree := ⟨[(["apps.toml"], .file "".toUTF8)]⟩

/-- where outputs are printed, no file but the report's can change -/
theorem unknown_root_of_blank :
    let args := ["--root", "app", "--stdout", "--report", "full", "--report-out", "report"]
    let o : Options :=
      { roots := ["app"], toOutput := true, reportMode := some .full, reportFile := some "report" }
    let l : Locator := { environment := [], workDirectory := "/" }
    Library.options args = .ok o ∧
      ∃ w', Host.execute (m := StateM Workspace) args l .blank = (1, w') ∧ w'.output = "" ∧
        w'.notes = "Error: selected module 'app' is not declared in the manifest\n" ∧
        Workspace.Confined (· = "report") .blank w' := by
  intro args o l
  have hargs : Library.options args = .ok o := by decide
  have hcode : (Host.execute (m := StateM Workspace) args l .blank).1 = 1 := by decide +kernel
  have hnotes : (Host.execute (m := StateM Workspace) args l .blank).2.notes =
      "Error: selected module 'app' is not declared in the manifest\n" := by decide +kernel
  obtain ⟨code, w', hrun, hconfined, hend⟩ := failures_and_frames hargs l .blank
  rw [hrun] at hcode hnotes
  obtain ⟨hzero, -⟩ | ⟨-, p, u, f, v, messages, -, -, -, -, -, houtput, -⟩ := hend
  · cases hcode.symm.trans hzero
  · subst hcode
    refine ⟨hargs, w', hrun, houtput, hnotes, fun here hne => ?_⟩
    obtain ⟨path, hpath | ⟨hoff, -⟩, hfollow⟩ := hconfined here hne
    · exact ⟨path, (Option.some.inj hpath).symm, hfollow⟩
    · cases hoff

end ServiceBoundary
