import ServiceBoundary.FileTree
import ServiceBoundary.Journal
import ServiceBoundary.Library
import ServiceBoundary.Locator
import ServiceBoundary.Manifest
import ServiceBoundary.ModuleGraph.Link
import ServiceBoundary.Template.Error

/-!
# Failures

A failure is a cause and what was being done when it came up, the largest task first.

* `Failure.texts`    one text for each task and one for the cause;
* `Failure.report`   what the user is told.
-/

namespace ServiceBoundary

/-- what was being done -/
inductive Task where
  | readManifest (path : String)
  | parseManifest (path : String)
  | readRoots (path : String)
  | parseRoots (path : String)
  | link (path : String)
  | makeDirectory (path : String)
  | writeFile (path : String)
  | resolveSource (template : String) (path : String)
  | resolveOutput (template : String) (path : String)
  | readTemplate (template : String) (path : String)
  | render (template : String) (path : String)
  | writeOutput (template : String)
deriving DecidableEq, Repr

def Task.text : Task → String
  | .readManifest path => "failed to read manifest " ++ path
  | .parseManifest path => "invalid manifest " ++ path
  | .readRoots path => "failed to read selection file " ++ path
  | .parseRoots path => "invalid selection file " ++ path
  | .link path => "failed to load modules from " ++ path
  | .makeDirectory path => "failed to create directory " ++ path
  | .writeFile path => "failed to write " ++ path
  | .resolveSource template path =>
    "templates." ++ template ++ ": failed to resolve source path: " ++ path
  | .resolveOutput template path =>
    "templates." ++ template ++ ": failed to resolve output path: " ++ path
  | .readTemplate template path =>
    "templates." ++ template ++ ": failed to read template file: " ++ path
  | .render template path => "templates." ++ template ++ ": render failed (" ++ path ++ ")"
  | .writeOutput template => "templates." ++ template ++ ": failed to write output"

/-- why a task fails -/
inductive Cause where
  | file (e : FileError)
  | location (e : LocationError)
  | placeholder (e : Placeholder.ExpandError)
  | document (e : DocumentError)
  | link (e : LinkError)
  | planning (e : PlanningError)
  | template (e : Template.RenderError)
deriving DecidableEq, Repr

def Cause.text : Cause → String
  | .file e => e.message
  | .location e => e.message
  | .placeholder e => e.message
  | .document e => "TOML parse error: " ++ e.message
  | .link e => e.message
  | .planning e => e.message
  | .template e => e.message

/-- a cause and what was being done -/
structure Failure where
  /-- what was being done, the largest task first -/
  tasks : List Task
  /-- why it failed -/
  cause : Cause
deriving DecidableEq, Repr

namespace Failure

/-- a failure outside of any task -/
def ofCause (cause : Cause) : Failure := ⟨[], cause⟩

/-- the failure of a larger task -/
def within (task : Task) (f : Failure) : Failure := { f with tasks := task :: f.tasks }

variable {m : Type → Type} [Monad m] {ε α : Type}

/-- what can fail, with its causes -/
def orFail (toCause : ε → Cause) (x : Except ε α) : ExceptT Failure m α :=
  ExceptT.mk (pure (x.mapError fun e => ofCause (toCause e)))

/-- one task, with its causes -/
def during (task : Task) (toCause : ε → Cause) (x : m (Except ε α)) : ExceptT Failure m α :=
  ExceptT.mk ((Except.mapError fun e => ⟨[task], toCause e⟩) <$> x)

/-- the parts of a larger task -/
def inTask (task : Task) (x : ExceptT Failure m α) : ExceptT Failure m α :=
  ExceptT.mk ((Except.mapError (within task)) <$> x.run)

/-- one text for each task and one for the cause -/
def texts (f : Failure) : List String := f.tasks.map Task.text ++ [f.cause.text]

/-- what the user is told -/
def report [Library] (f : Failure) : String := Library.complaint f.texts

end Failure

end ServiceBoundary
