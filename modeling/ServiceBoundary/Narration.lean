import ServiceBoundary.Journal
import ServiceBoundary.ModuleGraph.Link

/-!
# What is told about linking and counting

Linking and counting are functions; what they have to tell is computed beside them.

* `ModuleGraph.linkEvents`   what happens while declarations are linked;
* `Tally.events`             what happens while roots are counted.
-/

namespace ServiceBoundary

namespace Declaration

/-- the dependencies before the first one that names nothing -/
def known (names : List String) (d : Declaration) : List String :=
  d.dependencies.takeWhile names.contains

/-- the dependencies that are listed again -/
def events (names : List String) (d : Declaration) : List Event :=
  (repeats (d.known names)).map (.repeatedDependency d.name)

/-- the dependencies that are listed again, up to the first dependency that names nothing -/
def eventsAll (names : List String) : (ds : List Declaration) → List Event
  | [] => []
  | d :: ds =>
    if d.dependencies.all names.contains then d.events names ++ eventsAll names ds
    else d.events names

end Declaration

/-- what happens while declarations are linked -/
def ModuleGraph.linkEvents (ds : List Declaration) : List Event :=
  let met := Declaration.eventsAll (ds.map Declaration.name) ds
  match ModuleGraph.link ds with
  | .error (.duplicateModule _) => []
  | .error (.unknownDependency ..) => met
  | .ok g => met ++ [.linked g.size]

/-- what happens while roots are counted -/
def Tally.events (g : ModuleGraph) (names : List String) : List Event :=
  match g.findRoots names, Tally.ofRoots g names with
  | .ok ids, .ok t =>
    let counted := (∅ : Tally g).propagate ids
    counted.2.map (fun m => .propagating (g.name m))
      ++ (counted.1.raised ids).map (fun m => .promoted (g.name m))
      ++ [.resolved ids.length t.standalone.length]
  | _, _ => []

end ServiceBoundary
