import ServiceBoundary.Tally.Folding

/-!
# The journal

While it works the program tells what it does, one line for each event. Events have levels, and a
threshold says which of them are told.

* `Level.ofOptions`   the threshold that options ask for;
* `Event.line`        the line of an event.
-/

namespace ServiceBoundary

/-- how much is told; each level tells what the ones before it tell -/
inductive Level where
  | off
  | error
  | warn
  | info
  | debug
  | trace
deriving DecidableEq, Repr

namespace Level

def rank : Level → Nat
  | off => 0
  | error => 1
  | warn => 2
  | info => 3
  | debug => 4
  | trace => 5

/-- whether an event of level `event` is told -/
def tells (threshold event : Level) : Bool := event.rank ≤ threshold.rank

def label : Level → String
  | off => "off"
  | error => "error"
  | warn => "warn"
  | info => "info"
  | debug => "debug"
  | trace => "trace"

/-- the level of this name -/
def ofLabel? (name : String) : Option Level :=
  [off, error, warn, info, debug, trace].find? fun l => l.label == name

/-- the threshold that options ask for: `verbose` times more, or only errors -/
def ofOptions (verbose : Nat) (quiet : Bool) : Level :=
  if quiet then error
  else
    match verbose with
    | 0 => info
    | 1 => debug
    | _ => trace

end Level

/-- something that happened -/
inductive Event where
  /-- a module lists a dependency again -/
  | repeatedDependency (module : String) (dependency : String)
  | linked (modules : Nat)
  /-- a module is visited for the first time -/
  | propagating (module : String)
  /-- the count of a root is raised -/
  | promoted (module : String)
  /-- roles are settled -/
  | resolved (roots : Nat) (standalone : Nat)
  | planned (modules : Nat) (components : Nat) (policy : FlagPolicy)
  /-- a file has a new text -/
  | wrote (path : String)
  /-- a file had its text already -/
  | unchanged (path : String)
deriving DecidableEq, Repr

namespace Event

def level : Event → Level
  | .propagating .. => .trace
  | .repeatedDependency .. | .linked .. | .promoted .. | .resolved .. | .unchanged .. => .debug
  | .planned .. | .wrote .. => .info

/-- what happened -/
def title : Event → String
  | .repeatedDependency .. => "ignoring repeated dependency"
  | .linked .. => "module registry loaded"
  | .propagating .. => "propagating"
  | .promoted .. => "root promoted to standalone"
  | .resolved .. => "resolution finished"
  | .planned .. => "planned services"
  | .wrote .. => "wrote"
  | .unchanged .. => "unchanged"

/-- to what it happened -/
def details : Event → List (String × String)
  | .repeatedDependency module dependency => [("module", module), ("dependency", dependency)]
  | .linked modules => [("modules", toString modules)]
  | .propagating module => [("module", module)]
  | .promoted module => [("module", module)]
  | .resolved roots standalone => [("roots", toString roots), ("standalone", toString standalone)]
  | .planned modules components policy =>
    [("modules", toString modules), ("components", toString components),
      ("flag_policy", policy.label)]
  | .wrote path => [("path", path)]
  | .unchanged path => [("path", path)]

/-- the width of the column of levels -/
def levelWidth : Nat := 5

/-- the line of the event: the level on the right of its column, what happened, and the details -/
def line (e : Event) : String :=
  let level := e.level.label.toUpper
  String.ofList (List.replicate (levelWidth - level.length) ' ') ++ level ++ " " ++ e.title
    ++ String.join (e.details.map fun d => " " ++ d.1 ++ "=" ++ d.2) ++ "\n"

end Event

end ServiceBoundary
