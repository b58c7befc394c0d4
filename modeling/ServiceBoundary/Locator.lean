import ServiceBoundary.Path
import ServiceBoundary.Placeholder

/-!
# Where inputs and outputs are

A locator knows the variables of the environment, the working directory and, once there is one, the
manifest. Paths in options and variables are seen from the working directory, paths in a manifest
from the directory that the manifest is in.

Paths, variables and the working directory are texts here. A system may have others, whose bytes are
not UTF-8; nothing is said about those.

* `Locator.baseDirectory`       what paths in the manifest are seen from;
* `Locator.expand`              a text with values for its placeholders;
* `Locator.resolve`             a path of the manifest;
* `Locator.manifestCandidate`   where the manifest is looked for;
* `Locator.rootsCandidate`      where the list of roots is looked for.
-/

namespace ServiceBoundary

/-- what is known about places; all of it is UTF-8 -/
structure Locator where
  environment : List (String × String)
  workDirectory : String
  /-- the manifest, if there is one yet -/
  manifest : Option String := none

/-- who says where a file is -/
inductive Source where
  | option
  | variable
  | convention
deriving DecidableEq, Repr

/-- why a file is not found -/
inductive LocationError where
  | noManifest (source : Source) (path : String)
  | noRoots (path : String)
deriving DecidableEq, Repr

namespace Locator

/-- the variable that names the manifest -/
def manifestVariable : String := "SVCPLAN_MANIFEST"

/-- the variable that names the list of roots -/
def rootsVariable : String := "SVCPLAN_SELECT"

/-- the manifest, if nobody names another -/
def manifestName : String := "apps.toml"

/-- what paths in the manifest are seen from: its directory, or the working directory as long as
there is no manifest -/
def baseDirectory (l : Locator) : String := (l.manifest.bind Path.parent?).getD l.workDirectory

/-- the value of a placeholder -/
def value (l : Locator) (name : String) : Option String :=
  match name.toList with
  | 'e' :: 'n' :: 'v' :: '.' :: key => l.environment.lookup (String.ofList key)
  | _ =>
    if name = "manifest_dir" then some l.baseDirectory
    else if name = "cwd" then some l.workDirectory
    else none

/-- the text with values for its placeholders -/
def expand (l : Locator) (text : String) : Except Placeholder.ExpandError String :=
  Placeholder.expand l.value text

/-- a path of the manifest -/
def resolve (l : Locator) (raw : String) : Except Placeholder.ExpandError String :=
  (l.expand raw).map (Path.join l.baseDirectory)

/-- the path that a variable names, without blanks around it; an empty one names none -/
def variablePath (l : Locator) (key : String) : Option String :=
  match (l.environment.lookup key).map Text.trim with
  | none => none
  | some path => if path.isEmpty then none else some (Path.join l.workDirectory path)

/-- where the manifest is looked for, and who says so: the option, else the variable, else its usual
name -/
def manifestCandidate (l : Locator) (option : Option String) : Source × String :=
  match option with
  | some path => (.option, Path.join l.workDirectory path)
  | none =>
    match l.variablePath manifestVariable with
    | some path => (.variable, path)
    | none => (.convention, Path.join l.workDirectory manifestName)

/-- where the list of roots is looked for: the option, else the variable, else nowhere -/
def rootsCandidate (l : Locator) (option : Option String) : Option String :=
  match option with
  | some path => some (Path.join l.workDirectory path)
  | none => l.variablePath rootsVariable

/-- the locator once the manifest is found -/
def withManifest (l : Locator) (path : String) : Locator := { l with manifest := some path }

end Locator

def LocationError.message : LocationError → String
  | .noManifest .option path => "--manifest was provided but file does not exist: " ++ path
  | .noManifest .variable path =>
    Locator.manifestVariable ++ " is set but file does not exist: " ++ path
  | .noManifest .convention path =>
    "no manifest found at " ++ path ++ " (pass --manifest or set " ++ Locator.manifestVariable ++ ")"
  | .noRoots path => "selection file does not exist: " ++ path

end ServiceBoundary
