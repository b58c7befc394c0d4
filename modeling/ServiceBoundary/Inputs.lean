import ServiceBoundary.Host
import ServiceBoundary.RootList

/-!
# Inputs

Finding and reading the manifest and the list of roots. Of several places where a file may be, the
first one that is named counts, and it is an error if nothing is there.
-/

namespace ServiceBoundary.Host

variable {m : Type → Type} [Monad m] [Host m]

def findManifest (l : Locator) (option : Option String) : ExceptT Failure m String := do
  let (source, path) := l.manifestCandidate option
  if ← present path then
    return path
  else
    throw (.ofCause (.location (.noManifest source path)))

/-- the file with the list of roots, if there is one -/
def findRoots (l : Locator) (option : Option String) : ExceptT Failure m (Option String) := do
  match l.rootsCandidate option with
  | none => return none
  | some path =>
    if ← present path then
      return some path
    else
      throw (.ofCause (.location (.noRoots path)))

def loadManifest [Library] (path : String) : ExceptT Failure m Manifest := do
  let source ← Failure.during (.readManifest path) .file (readText path)
  Failure.during (.parseManifest path) .document (pure (Manifest.parse source))

def loadRoots [Library] (path : String) : ExceptT Failure m (List String) := do
  let source ← Failure.during (.readRoots path) .file (readText path)
  Failure.during (.parseRoots path) .document (pure (RootList.parse source))

end ServiceBoundary.Host
