import ServiceBoundary.Inputs
import ServiceBoundary.Proofs.Paths
import ServiceBoundary.Proofs.Requests

/-!
# Looking for inputs, one request after the other

A locator is asked for texts and paths, for the manifest and for the list of roots, in any order.
One request moves it: when the manifest is found, paths are seen from its directory from then on. A
request that fails leaves the locator where it was, also one for the manifest.

All that carries the run is that the working directory is absolute. Every path that is looked at is
seen from there, so it is absolute, and so is the directory above it.

* `Request`, `Host.ask`, `Host.askAll`   what a locator is asked, and the answers;
* `Locator.Named`, `Locator.Unnamed`     who names a file first;
* `Locator.Sought`         where the manifest is looked for;
* `ask_cases`              what a request does to the locator;
* `Locator.Anchored`       what requests keep;
* `askAll_spec`            a run of requests;
* `places_over_requests`   what is found, and where paths lead, after any requests.
-/

namespace ServiceBoundary

/-- what a locator is asked -/
inductive Request where
  | expand (text : String)
  | resolve (raw : String)
  | findManifest (option : Option String)
  | findRoots (option : Option String)
deriving DecidableEq, Repr

/-- the text or the path that was asked for, if there is one -/
abbrev Answer : Type := Except Failure (Option String)

namespace Host
variable {m : Type → Type} [Monad m] [Host m]

/-- the answer to a request, and the locator afterwards -/
def ask (l : Locator) : Request → m (Answer × Locator)
  | .expand text =>
    return (((l.expand text).mapError fun e => .ofCause (.placeholder e)).map some, l)
  | .resolve raw =>
    return (((l.resolve raw).mapError fun e => .ofCause (.placeholder e)).map some, l)
  | .findManifest option => do
    match ← (findManifest l option).run with
    | .ok path => return (.ok (some path), l.withManifest path)
    | .error f => return (.error f, l)
  | .findRoots option => return (← (findRoots l option).run, l)

/-- the answers to some requests, each to the locator that the one before has left -/
def askAll (l : Locator) : (rs : List Request) → m (List Answer × Locator)
  | [] => return ([], l)
  | r :: rs => do
    let (answer, l) ← ask l r
    let (answers, l) ← askAll l rs
    return (answer :: answers, l)

end Host

namespace Workspace

/-- a request in a workspace: the answer with the locator, and the workspace afterwards -/
def ask (w : Workspace) (l : Locator) (r : Request) : (Answer × Locator) × Workspace :=
  Host.ask (m := StateM Workspace) l r w

def askAll (w : Workspace) (l : Locator) (rs : List Request) :
    (List Answer × Locator) × Workspace :=
  Host.askAll (m := StateM Workspace) l rs w

theorem askAll_cons {w v : Workspace} {l l' : Locator} {r : Request} {answer : Answer}
    (h : w.ask l r = ((answer, l'), v)) (rs : List Request) :
    w.askAll l (r :: rs) =
      ((answer :: (v.askAll l' rs).1.1, (v.askAll l' rs).1.2), (v.askAll l' rs).2) :=
  Workspace.bind_apply h

end Workspace

namespace Locator
variable {l l' : Locator} {w v : Workspace} {key path : String} {option : Option String}
  {source : Source} {r : Request} {rs : List Request} {answer : Answer}

/-! ## who names a file -/

/-- the first that names a file, and the path: the option, else the variable of this name, if
something is left of its value without the blanks around it -/
inductive Named (l : Locator) (key : String) : Option String → Source → String → Prop
  | ofOption (path : String) : Named l key (some path) .option (Path.join l.workDirectory path)
  | ofVariable {value : String} (h : l.environment.lookup key = some value)
      (hvalue : Text.trim value ≠ "") :
      Named l key none .variable (Path.join l.workDirectory (Text.trim value))

/-- neither the option nor the variable names a file -/
def Unnamed (l : Locator) (key : String) (option : Option String) : Prop :=
  option = none ∧ ∀ value, l.environment.lookup key = some value → Text.trim value = ""

/-- where the manifest is looked for, and who says so -/
inductive Sought (l : Locator) (option : Option String) : Source → String → Prop
  | named {source : Source} {path : String} (h : l.Named "SVCPLAN_MANIFEST" option source path) :
      Sought l option source path
  | convention (h : l.Unnamed "SVCPLAN_MANIFEST" option) :
      Sought l option .convention (Path.join l.workDirectory "apps.toml")

theorem variablePath_eq_some {value : String} (h : l.environment.lookup key = some value)
    (hvalue : Text.trim value ≠ "") :
    l.variablePath key = some (Path.join l.workDirectory (Text.trim value)) := by
  unfold variablePath
  rw [h]
  show (if (Text.trim value).isEmpty then none else _) = _
  rw [if_neg]
  rwa [String.isEmpty_iff]

theorem variablePath_eq_none (h : ∀ value, l.environment.lookup key = some value →
    Text.trim value = "") : l.variablePath key = none := by
  unfold variablePath
  cases hvalue : l.environment.lookup key with
  | none => rfl
  | some value =>
    show (if (Text.trim value).isEmpty then none else _) = _
    rw [h value hvalue]
    rfl

theorem unnamed_or_named (l : Locator) (key : String) (option : Option String) :
    l.Unnamed key option ∨ ∃ source path, l.Named key option source path := by
  cases option with
  | some path => exact .inr ⟨_, _, .ofOption path⟩
  | none =>
    by_cases h : ∀ value, l.environment.lookup key = some value → Text.trim value = ""
    · exact .inl ⟨rfl, h⟩
    · push Not at h
      obtain ⟨value, hvalue, hne⟩ := h
      exact .inr ⟨_, _, .ofVariable hvalue hne⟩

theorem exists_sought (l : Locator) (option : Option String) :
    ∃ source path, l.Sought option source path := by
  obtain h | ⟨source, path, h⟩ := l.unnamed_or_named "SVCPLAN_MANIFEST" option
  · exact ⟨_, _, .convention h⟩
  · exact ⟨source, path, .named h⟩

theorem manifestCandidate_of_sought (h : l.Sought option source path) :
    l.manifestCandidate option = (source, path) := by
  cases h with
  | named h =>
    cases h with
    | ofOption path => rfl
    | ofVariable hvalue hne =>
      simp only [manifestCandidate, manifestVariable, variablePath_eq_some hvalue hne]
  | convention h =>
    obtain ⟨rfl, h⟩ := h
    simp only [manifestCandidate, manifestVariable, variablePath_eq_none h]
    rfl

theorem rootsCandidate_of_named (h : l.Named rootsVariable option source path) :
    l.rootsCandidate option = some path := by
  cases h with
  | ofOption path => rfl
  | ofVariable hvalue hne => exact variablePath_eq_some hvalue hne

theorem rootsCandidate_of_unnamed (h : l.Unnamed rootsVariable option) :
    l.rootsCandidate option = none := by
  obtain ⟨rfl, h⟩ := h
  exact variablePath_eq_none h

section
variable (hwork : Path.isAbsolute l.workDirectory = true)
include hwork

theorem isAbsolute_of_named (h : l.Named key option source path) :
    Path.isAbsolute path = true := by
  cases h <;> exact Path.isAbsolute_join hwork _

theorem isAbsolute_of_sought (h : l.Sought option source path) : Path.isAbsolute path = true := by
  cases h with
  | named h => exact isAbsolute_of_named hwork h
  | convention => exact Path.isAbsolute_join hwork _

end

/-! ## single requests -/

theorem absolute_of_isAbsolute (h : Path.isAbsolute path = true) (w : Workspace) :
    w.absolute path = path :=
  congrArg (FileTree.Route.mk path) (Path.join_of_isAbsolute h _)

theorem ask_resolve {raw text : String} (h : l.expand raw = .ok text) (w : Workspace) :
    w.ask l (.resolve raw) = ((.ok (some (Path.join l.baseDirectory text)), l), w) := by
  show ((((l.resolve raw).mapError _).map some, l), w) = _
  rw [resolve, h]
  rfl

theorem ask_findManifest (h : l.Sought option source path)
    (hwork : Path.isAbsolute l.workDirectory = true) (w : Workspace) :
    w.ask l (.findManifest option) =
      if (w.tree.find? path).isSome then ((.ok (some path), l.withManifest path), w)
      else ((.error (.ofCause (.location (.noManifest source path))), l), w) := by
  have hpath := absolute_of_isAbsolute (isAbsolute_of_sought hwork h) w
  have hrun : w.run (Host.findManifest l option) =
      (if (w.tree.find? path).isSome then .ok path
        else .error (.ofCause (.location (.noManifest source path))), w) := by
    rw [Host.findManifest, manifestCandidate_of_sought h]
    exact (Workspace.run_present path _ _).trans (by rw [hpath])
  refine (Workspace.bind_apply hrun).trans ?_
  split <;> rfl

theorem ask_findRoots_of_named (h : l.Named rootsVariable option source path)
    (hwork : Path.isAbsolute l.workDirectory = true) (w : Workspace) :
    w.ask l (.findRoots option) =
      if (w.tree.find? path).isSome then ((.ok (some path), l), w)
      else ((.error (.ofCause (.location (.noRoots path))), l), w) := by
  have hpath := absolute_of_isAbsolute (isAbsolute_of_named hwork h) w
  have hrun : w.run (Host.findRoots l option) =
      (if (w.tree.find? path).isSome then .ok (some path)
        else .error (.ofCause (.location (.noRoots path))), w) := by
    rw [Host.findRoots, rootsCandidate_of_named h]
    exact (Workspace.run_present path _ _).trans (by rw [hpath])
  refine (Workspace.bind_apply hrun).trans ?_
  split <;> rfl

theorem ask_findRoots_of_unnamed (h : l.Unnamed rootsVariable option) (w : Workspace) :
    w.ask l (.findRoots option) = ((.ok none, l), w) := by
  have hrun : w.run (Host.findRoots l option) = (.ok none, w) := by
    rw [Host.findRoots, rootsCandidate_of_unnamed h]
    rfl
  exact Workspace.bind_apply hrun

/-- the manifest that was found, if the request was for the manifest and one was found -/
def found? : Request × Answer → Option String
  | (.findManifest _, .ok path) => path
  | _ => none

/-- the manifests that were found by some requests, in order -/
def found (rs : List Request) (answers : List Answer) : List String :=
  (rs.zip answers).filterMap found?

/-- **What a request does.** If it finds the manifest, the locator has it from then on; everything
else leaves the locator alone. -/
theorem ask_cases (hwork : Path.isAbsolute l.workDirectory = true) (w : Workspace) (r : Request) :
    ∃ answer l', w.ask l r = ((answer, l'), w) ∧
      (found? (r, answer) = none ∧ l' = l ∨
        ∃ path, found? (r, answer) = some path ∧ answer = .ok (some path) ∧
          Path.isAbsolute path = true ∧ l' = l.withManifest path) := by
  cases r with
  | expand text => exact ⟨_, l, rfl, .inl ⟨rfl, rfl⟩⟩
  | resolve raw => exact ⟨_, l, rfl, .inl ⟨rfl, rfl⟩⟩
  | findManifest option =>
    obtain ⟨source, path, h⟩ := l.exists_sought option
    have hask := ask_findManifest h hwork w
    split at hask
    · exact ⟨_, _, hask, .inr ⟨path, rfl, rfl, isAbsolute_of_sought hwork h, rfl⟩⟩
    · exact ⟨_, _, hask, .inl ⟨rfl, rfl⟩⟩
  | findRoots option =>
    obtain h | ⟨source, path, h⟩ := l.unnamed_or_named rootsVariable option
    · exact ⟨_, l, ask_findRoots_of_unnamed h w, .inl ⟨rfl, rfl⟩⟩
    · have hask := ask_findRoots_of_named h hwork w
      split at hask
      · exact ⟨_, l, hask, .inl ⟨rfl, rfl⟩⟩
      · exact ⟨_, l, hask, .inl ⟨rfl, rfl⟩⟩

/-! ## runs of requests -/

/-- the same places, and perhaps a manifest at an absolute path -/
structure Anchored (l l' : Locator) : Prop where
  environment_eq : l'.environment = l.environment
  workDirectory_eq : l'.workDirectory = l.workDirectory
  isAbsolute : ∀ path, l'.manifest = some path → Path.isAbsolute path = true

theorem Anchored.withManifest (h : Anchored l l') (hpath : Path.isAbsolute path = true) :
    Anchored l (l'.withManifest path) where
  environment_eq := h.environment_eq
  workDirectory_eq := h.workDirectory_eq
  isAbsolute := by
    rintro _ ⟨⟩
    exact hpath

theorem askAll_spec (hwork : Path.isAbsolute l.workDirectory = true) (h : Anchored l l')
    (w : Workspace) (rs : List Request) :
    ∃ answers l'', w.askAll l' rs = ((answers, l''), w) ∧ answers.length = rs.length ∧
      Anchored l l'' ∧ l''.manifest = ((found rs answers).getLast?).or l'.manifest := by
  induction rs generalizing l' with
  | nil => exact ⟨[], l', rfl, rfl, h, rfl⟩
  | cons r rs ih =>
    have hwork' : Path.isAbsolute l'.workDirectory = true := h.workDirectory_eq ▸ hwork
    obtain ⟨answer, l₁, hask, hl₁⟩ := ask_cases hwork' w r
    have hanchored : Anchored l l₁ := by
      obtain ⟨-, rfl⟩ | ⟨path, -, -, hpath, rfl⟩ := hl₁
      · exact h
      · exact h.withManifest hpath
    obtain ⟨answers, l₂, hall, hlen, hl₂, hmanifest⟩ := ih hanchored
    refine ⟨answer :: answers, l₂, ?_, congrArg Nat.succ hlen, hl₂, ?_⟩
    · rw [Workspace.askAll_cons hask, hall]
    · rw [hmanifest]
      obtain ⟨hfound, rfl⟩ | ⟨path, hfound, -, -, rfl⟩ := hl₁
      · show _ = (((r, answer) :: rs.zip answers).filterMap found?).getLast?.or _
        rw [List.filterMap_cons_none hfound]
        rfl
      · show _ = (((r, answer) :: rs.zip answers).filterMap found?).getLast?.or _
        rw [List.filterMap_cons_some hfound, List.getLast?_cons]
        show (found rs answers).getLast?.or (some path) =
          (some ((found rs answers).getLast?.getD path)).or _
        cases (found rs answers).getLast? <;> rfl

/-- Where paths are seen from: the directory above the manifest, or the working directory as long as
there is no manifest, and if there is nothing above it. -/
structure Based (l : Locator) : Prop where
  isAbsolute : Path.isAbsolute l.baseDirectory = true
  of_none : l.manifest = none → l.baseDirectory = l.workDirectory
  of_some : ∀ path, l.manifest = some path → Path.isAbsolute path = true ∧
    (Path.parent? path = none ∧ Path.names path = [] ∧ l.baseDirectory = l.workDirectory ∨
      Path.parent? path = some l.baseDirectory ∧
        (∃ name, Path.names path = Path.names l.baseDirectory ++ [name]) ∧
        l.baseDirectory.toList <+: path.toList)

/-- What a locator answers in a workspace, and what it is afterwards. -/
structure Answers (l : Locator) (w : Workspace) : Prop where
  unmoved : ∀ r, (w.ask l r).2 = w ∧
    ((∀ option, r ≠ .findManifest option) ∨ (∃ f, (w.ask l r).1.1 = .error f) →
      (w.ask l r).1.2 = l)
  resolved : ∀ raw text, l.expand raw = .ok text → ∃ path,
    w.ask l (.resolve raw) = ((.ok (some path), l), w) ∧ Path.isAbsolute path = true ∧
      path = if Path.isAbsolute text = true then text
        else l.baseDirectory ++
          (if l.baseDirectory.toList.getLast? = some '/' then "" else "/") ++ text
  exists_sought : ∀ option, ∃ source path, l.Sought option source path
  manifest : ∀ option source path, l.Sought option source path → Path.isAbsolute path = true ∧
    w.ask l (.findManifest option) =
      if (w.tree.find? path).isSome then ((.ok (some path), l.withManifest path), w)
      else ((.error (.ofCause (.location (.noManifest source path))), l), w)
  unnamed_or_named : ∀ option, l.Unnamed "SVCPLAN_SELECT" option ∨
    ∃ source path, l.Named "SVCPLAN_SELECT" option source path
  noRoots : ∀ option, l.Unnamed "SVCPLAN_SELECT" option →
    w.ask l (.findRoots option) = ((.ok none, l), w)
  roots : ∀ option source path, l.Named "SVCPLAN_SELECT" option source path →
    Path.isAbsolute path = true ∧
    w.ask l (.findRoots option) =
      if (w.tree.find? path).isSome then ((.ok (some path), l), w)
      else ((.error (.ofCause (.location (.noRoots path))), l), w)

section
variable (hwork : Path.isAbsolute l.workDirectory = true)
include hwork

theorem based (h : ∀ path, l.manifest = some path → Path.isAbsolute path = true) : l.Based := by
  cases hm : l.manifest with
  | none =>
    have hbase : l.baseDirectory = l.workDirectory := by
      rw [baseDirectory, hm]
      rfl
    refine ⟨hbase ▸ hwork, fun _ => hbase, ?_⟩
    intro path hpath
    rw [hm] at hpath
    cases hpath
  | some path =>
    have hpath := h path hm
    have hbase : l.baseDirectory = (Path.parent? path).getD l.workDirectory := by
      rw [baseDirectory, hm]
      rfl
    obtain ⟨hnone, hnames⟩ | ⟨up, name, hup, habsolute, hnames, hprefix⟩ :=
      Path.parent?_cases hpath
    · rw [hnone] at hbase
      refine ⟨hbase ▸ hwork, fun _ => hbase, ?_⟩
      intro other hother
      cases hm.symm.trans hother
      exact ⟨hpath, .inl ⟨hnone, hnames, hbase⟩⟩
    · rw [hup] at hbase
      obtain rfl : l.baseDirectory = up := hbase
      refine ⟨habsolute, fun hnone => ?_, ?_⟩
      · rw [hm] at hnone
        cases hnone
      · intro other hother
        cases hm.symm.trans hother
        exact ⟨hpath, .inr ⟨hup, ⟨name, hnames⟩, hprefix⟩⟩

theorem answers (hbased : l.Based) (w : Workspace) : l.Answers w where
  unmoved r := by
    obtain ⟨answer, l', hask, hl'⟩ := ask_cases hwork w r
    rw [hask]
    refine ⟨rfl, fun hr => ?_⟩
    obtain ⟨-, rfl⟩ | ⟨path, hfound, hanswer, -, rfl⟩ := hl'
    · rfl
    · exfalso
      obtain hother | ⟨f, hf⟩ := hr
      · cases r with
        | findManifest option => exact hother option rfl
        | _ => cases hfound
      · cases hanswer.symm.trans hf
  resolved raw text h := by
    refine ⟨_, ask_resolve h w, Path.isAbsolute_join hbased.isAbsolute text, ?_⟩
    split
    · next habsolute => exact Path.join_of_isAbsolute habsolute _
    · next hrelative =>
      exact Path.join_of_relative hbased.isAbsolute (Bool.eq_false_iff.2 hrelative)
  exists_sought := exists_sought l
  manifest option source path h := ⟨isAbsolute_of_sought hwork h, ask_findManifest h hwork w⟩
  unnamed_or_named := unnamed_or_named l _
  noRoots option h := ask_findRoots_of_unnamed h w
  roots option source path h := ⟨isAbsolute_of_named hwork h, ask_findRoots_of_named h hwork w⟩

end

/-- **What is found, and where paths lead, after any requests.** The manifest is the last one that
was found, and paths are seen from the directory above it. A request that fails or asks for
something else leaves this as it is. A path of the manifest is absolute, wherever its text can be
expanded. The manifest and the list of roots are looked for at one path, which the first that names
one has named; the request fails if nothing is there. -/
theorem places_over_requests (hwork : Path.isAbsolute l.workDirectory = true)
    (hnew : l.manifest = none) (w : Workspace) (rs : List Request) :
    ∃ answers l', w.askAll l rs = ((answers, l'), w) ∧ answers.length = rs.length ∧
      l'.environment = l.environment ∧ l'.workDirectory = l.workDirectory ∧
      l'.manifest = (found rs answers).getLast? ∧ l'.Based ∧ l'.Answers w := by
  have hstart : Anchored l l := by
    refine ⟨rfl, rfl, fun path hpath => ?_⟩
    rw [hnew] at hpath
    cases hpath
  obtain ⟨answers, l', hall, hlen, hl', hmanifest⟩ := askAll_spec hwork hstart w rs
  have hwork' : Path.isAbsolute l'.workDirectory = true := hl'.workDirectory_eq ▸ hwork
  have hbased : l'.Based := based hwork' hl'.isAbsolute
  refine ⟨answers, l', hall, hlen, hl'.environment_eq, hl'.workDirectory_eq, ?_, hbased,
    Locator.answers hwork' hbased w⟩
  rw [hmanifest, hnew, Option.or_none]

/-- A manifest that the option names and that is missing moves nothing; then the one of the variable
is found, and a list of roots is looked for nowhere, since its variable is blank. -/
theorem places_of_desk :
    let l : Locator := {
      environment := [("SVCPLAN_MANIFEST", " sub/m.toml\n"), ("SVCPLAN_SELECT", " ")]
      workDirectory := "/w" }
    let w : Workspace := {
      tree := ⟨[(["m.toml", "sub", "w"], .file "".toUTF8), (["sub", "w"], .directory),
        (["w"], .directory)]⟩ }
    let rs : List Request := [.findManifest (some "gone"), .resolve "x", .findManifest none,
      .findRoots none, .resolve "x", .findManifest (some "/x")]
    Path.isAbsolute l.workDirectory = true ∧ l.manifest = none ∧
      (w.askAll l rs).1.1 = [
        .error (.ofCause (.location (.noManifest .option "/w/gone"))), .ok (some "/w/x"),
        .ok (some "/w/sub/m.toml"), .ok none, .ok (some "/w/sub/x"),
        .error (.ofCause (.location (.noManifest .option "/x")))] ∧
      (w.askAll l rs).1.2.manifest = some "/w/sub/m.toml" ∧ (w.askAll l rs).1.2.Based ∧
      (w.askAll l rs).1.2.Answers w := by
  intro l w rs
  have hwork : Path.isAbsolute l.workDirectory = true := by decide +kernel
  obtain ⟨answers, l', hall, -, -, -, hmanifest, hbased, hanswers⟩ :=
    places_over_requests hwork rfl w rs
  have hanswered : (w.askAll l rs).1.1 = [
      .error (.ofCause (.location (.noManifest .option "/w/gone"))), .ok (some "/w/x"),
      .ok (some "/w/sub/m.toml"), .ok none, .ok (some "/w/sub/x"),
      .error (.ofCause (.location (.noManifest .option "/x")))] := by decide +kernel
  refine ⟨hwork, rfl, hanswered, ?_⟩
  rw [hall] at hanswered ⊢
  obtain rfl : answers = _ := hanswered
  exact ⟨hmanifest, hbased, hanswers⟩

end Locator

end ServiceBoundary
