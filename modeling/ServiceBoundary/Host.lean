import ServiceBoundary.Failure

/-!
# Hosts

All that the program asks of the place where it runs. The program is written against this list, so
it runs on a tree of files in memory as well as on a machine.

* `Host.makeDirectories`   a directory with all that is missing above it;
* `Host.refresh`           a file with a text, touched only if it holds another.
-/

namespace ServiceBoundary

/-- a place where the program can run -/
class Host (m : Type → Type) where
  /-- whether the path names a file or a directory -/
  present : String → m Bool
  /-- whether the path names a directory -/
  isDirectory : String → m Bool
  /-- the text of a file -/
  readText : String → m (Except FileError String)
  /-- makes a directory, in one that is there -/
  makeDirectory : String → m (Except FileError Unit)
  /-- gives a file a new text -/
  writeText : String → String → m (Except FileError Unit)
  /-- sets how much is told from now on -/
  tellUpTo : Level → m Unit
  /-- tells what happened -/
  log : Event → m Unit
  /-- writes a text for the user, beside the output -/
  notify : String → m Unit
  /-- writes output -/
  print : String → m Unit

namespace Host
variable {m : Type → Type} [Monad m] [Host m]

/-- what can fail runs where the rest runs -/
instance (ε : Type) : Host (ExceptT ε m) where
  present path := ExceptT.lift (present path)
  isDirectory path := ExceptT.lift (isDirectory path)
  readText path := ExceptT.lift (readText path)
  makeDirectory path := ExceptT.lift (makeDirectory path)
  writeText path text := ExceptT.lift (writeText path text)
  tellUpTo level := ExceptT.lift (tellUpTo level)
  log e := ExceptT.lift (log e)
  notify text := ExceptT.lift (notify text)
  print text := ExceptT.lift (print text)

/-- the outcome of making a directory; one that is already there will do -/
def accept (path : String) (made : Except FileError Unit) : ExceptT FileError m Unit := do
  match made with
  | .ok () => return
  | .error e => if ← isDirectory path then return else throw e

/-- Makes the first directory of the list. Each directory lies in the next one, and those that are
missing are made before it. -/
def makeDirectories : (paths : List String) → ExceptT FileError m Unit
  | [] => return
  | path :: above => do
    match ← makeDirectory path with
    | .error .missing =>
      makeDirectories above
      accept path (← makeDirectory path)
    | made => accept path made

/-- Gives a file the text, unless it has exactly this text. The answer tells whether the file was
touched. Directories above it are made. -/
def refresh (path text : String) : ExceptT Failure m Bool := do
  if (← readText path).toOption = some text then
    log (.unchanged path)
    return false
  else
    match Path.parent? path with
    | none => pure ()
    | some parent =>
      Failure.during (.makeDirectory parent) .file (makeDirectories (Path.makeable parent)).run
    Failure.during (.writeFile path) .file (writeText path text)
    log (.wrote path)
    return true

end Host

end ServiceBoundary
