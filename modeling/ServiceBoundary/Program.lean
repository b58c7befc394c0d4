import ServiceBoundary.Engines
import ServiceBoundary.Fragment.Document
import ServiceBoundary.Fragment.MakeFlags
import ServiceBoundary.Fragment.ServiceTable
import ServiceBoundary.Inputs
import ServiceBoundary.Narration
import ServiceBoundary.Options
import ServiceBoundary.RenderedTemplate

/-!
# The program

A run has three parts. It decides: it reads its inputs and makes a plan. It reports. Then it makes
all texts, and only when all of them are there the first file is written; what is printed comes last.

* `Host.decide`    the inputs and the plan;
* `Host.prepare`   the outputs of a plan;
* `Outputs.files`, `Outputs.printed`   what is written and what is printed;
* `Host.run`       a whole run;
* `Host.execute`   a command line.
-/

namespace ServiceBoundary

/-- a plan and what it was made from -/
structure Decision where
  /-- where things are -/
  locator : Locator
  manifest : Manifest
  graph : ModuleGraph
  tally : Tally graph
  plan : ServicePlan

/-- a text and the file that it belongs in -/
structure Delivery where
  /-- the template that it comes from, if it comes from one -/
  template : Option String
  path : String
  text : String
deriving DecidableEq, Repr

/-- all texts of a run -/
structure Outputs where
  /-- the plan as a document, if it is asked for -/
  document : Option String
  serviceTable : String
  /-- where the service table belongs, if anyone says so -/
  tablePath : Option String
  makeFlags : String
  /-- where the make fragment belongs, if anyone says so -/
  makePath : Option String
  templates : List RenderedTemplate
deriving DecidableEq, Repr

namespace Outputs

/-- the texts with their files, in the order in which they are written -/
def deliveries (out : Outputs) : List Delivery :=
  (out.tablePath.map fun path => ⟨none, path, out.serviceTable⟩).toList
    ++ (out.makePath.map fun path => ⟨none, path, out.makeFlags⟩).toList
    ++ out.templates.map fun t => ⟨some t.name, t.output, t.text⟩

/-- whether texts are printed and not written: it was asked for, or no fragment has a file -/
def isPrinted (out : Outputs) (o : Options) : Bool :=
  o.toOutput || out.tablePath.isNone && out.makePath.isNone

/-- what is written -/
def files (out : Outputs) (o : Options) : List Delivery :=
  if out.isPrinted o then [] else out.deliveries

/-- the text with a line end at its end -/
def closed (text : String) : String := if text.endsWith "\n" then text else text ++ "\n"

/-- all texts under each other, with empty lines between them -/
def listing (out : Outputs) : String :=
  out.serviceTable ++ "\n" ++ out.makeFlags
    ++ String.join (out.templates.map fun t => "\n" ++ closed t.text)

/-- what is printed -/
def printed (out : Outputs) (o : Options) : String :=
  out.document.getD "" ++ if out.isPrinted o then out.listing else ""

end Outputs

/-- the path of an output: the option as it is, else the manifest's, seen from its directory -/
def Locator.outputPath (l : Locator) (option configured : Option String) :
    Except Placeholder.ExpandError (Option String) :=
  match option with
  | some path => return some path
  | none => configured.mapM l.resolve

def levelVariable : String := "RUST_LOG"

/-- how much is logged: what the variable says, else what the options say -/
def threshold (o : Options) (l : Locator) : Level :=
  ((l.environment.lookup levelVariable).bind fun s => Level.ofLabel? s.toLower).getD o.level

def versionLine : String := "svcplan 0.1.0\n"

namespace Host

variable {m : Type → Type} [Monad m] [Host m]

/-- tells events -/
def logAll (events : List Event) : m Unit := events.forM log

/-- the roots in the file, and after them those of the options -/
def findRootNames [Library] (o : Options) (l : Locator) : ExceptT Failure m (List String) := do
  match ← findRoots l o.rootsFile with
  | none => return o.roots
  | some path => return (← loadRoots path) ++ o.roots

/-- reads all inputs and makes the plan -/
def decide [Library] (o : Options) (l : Locator) : ExceptT Failure m Decision := do
  let path ← findManifest l o.manifest
  let locator := l.withManifest path
  let manifest ← loadManifest path
  let roots ← findRootNames o locator
  logAll (ModuleGraph.linkEvents manifest.tasks)
  let graph ← Failure.during (.link path) .link (pure (ModuleGraph.link manifest.tasks))
  logAll (Tally.events graph roots)
  let tally ← Failure.orFail .planning (Tally.ofRoots graph roots)
  let policy := o.policy.getD manifest.policy
  let plan ← Failure.orFail .planning (tally.plan policy)
  log (.planned graph.size plan.components.length policy)
  return { locator, manifest, graph, tally, plan }

def tellReport (o : Options) (d : Decision) : ExceptT Failure m Unit := do
  match o.report with
  | .off => return
  | mode =>
    let text ← Failure.orFail .planning (d.tally.report d.plan mode)
    match o.reportFile with
    | some path => discard (refresh path text)
    | none => notify text

/-- makes all texts; nothing is written -/
def prepare [Library] (o : Options) (d : Decision) : ExceptT Failure m Outputs := do
  let emission := d.manifest.emission
  let tablePath ← Failure.orFail .placeholder
    (d.locator.outputPath o.serviceTable emission.serviceTable)
  let makePath ← Failure.orFail .placeholder (d.locator.outputPath o.makeFlags emission.makeFlags)
  let templates ← renderTemplates d.locator d.plan emission.templates
  return {
    document := if o.json then some (Fragment.document d.plan) else none
    serviceTable := Fragment.serviceTable emission.style d.plan
    tablePath
    makeFlags := Fragment.makeFlags emission.style d.plan
    makePath
    templates }

def deliver (d : Delivery) : ExceptT Failure m Unit :=
  match d.template with
  | none => discard (refresh d.path d.text)
  | some name => Failure.inTask (.writeOutput name) (discard (refresh d.path d.text))

/-- a whole run -/
def run [Library] (o : Options) (l : Locator) : ExceptT Failure m Unit := do
  let d ← decide o l
  tellReport o d
  let out ← prepare o d
  (out.files o).forM deliver
  print (out.printed o)

def execute [Library] (args : List String) (l : Locator) : m Nat := do
  match Library.options args with
  | .error .help => print Options.helpText; return 0
  | .error .version => print versionLine; return 0
  | .error (.usage e) => notify e.text; return 2
  | .ok o =>
    tellUpTo (threshold o l)
    match ← (run o l).run with
    | .ok () => return 0
    | .error f => notify f.report; return 1

end Host

end ServiceBoundary
