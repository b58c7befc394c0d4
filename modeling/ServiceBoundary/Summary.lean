import ServiceBoundary.ServicePlan

/-!
# Summaries

What a run decided, for a reader: the roots, every module with its role and its count, and every
service of a plan with what it folds in. The plan may stem from another tally of the same graph; a
service of the run that it does not name is left out.

* `Tally.summary`   collects the summary;
* `Summary.text`    writes it.
-/

namespace ServiceBoundary

/-- a module and what became of it -/
structure Summary.ModuleEntry where
  name : String
  role : Role
  /-- how often it was asked for -/
  visits : Nat
deriving DecidableEq, Repr

/-- a service and the size of what it owns -/
structure Summary.ServiceEntry where
  name : String
  memory : Nat
  dma : Nat
  flags : Nat
  /-- the names of the modules that it absorbs, in walk order -/
  folds : List String
deriving DecidableEq, Repr

/-- a run and a plan, for a reader -/
structure Summary where
  roots : List String
  /-- all modules, in declared order -/
  modules : List Summary.ModuleEntry
  /-- the number of services in the plan -/
  planned : Nat
  /-- the services of the run that the plan names, in declared order -/
  services : List Summary.ServiceEntry
deriving DecidableEq, Repr

namespace Summary

def ModuleEntry.text (e : ModuleEntry) : String :=
  "  - " ++ e.name ++ " (" ++ e.role.label ++ ", visits=" ++ toString e.visits ++ ")\n"

/-- the line of a service, and a second one if it absorbs anything -/
def ServiceEntry.text (e : ServiceEntry) : String :=
  "  - " ++ e.name ++ " (mem=" ++ toString e.memory ++ " dma=" ++ toString e.dma
    ++ " flags=" ++ toString e.flags ++ ")\n"
    ++ if e.folds.isEmpty then "" else "      folds: " ++ ", ".intercalate e.folds ++ "\n"

def text (s : Summary) : String :=
  "svcplan report (summary)\n========================\nroots: " ++ ", ".intercalate s.roots
    ++ "\n\nmodules (" ++ toString s.modules.length ++ ")\n"
    ++ String.join (s.modules.map ModuleEntry.text)
    ++ "\ncomponents (" ++ toString s.planned ++ ")\n"
    ++ String.join (s.services.map ServiceEntry.text)

end Summary

namespace Tally
variable {g : ModuleGraph}

/-- the entry of a service, from its component in the plan -/
def serviceEntry (t : Tally g) (m : Fin g.size) (c : Component) :
    Except PlanningError Summary.ServiceEntry := do
  let folded ← t.folded m
  return {
    name := c.name, memory := c.resources.memory.length, dma := c.resources.dma.length
    flags := c.flags.length, folds := folded.map g.name }

def summary (t : Tally g) (plan : ServicePlan) : Except PlanningError Summary := do
  let named := t.standalone.filterMap fun m => (plan.component? (g.name m)).map (Prod.mk m)
  return {
    roots := t.roots.map g.name
    modules := g.ids.map fun m => { name := g.name m, role := t.role m, visits := t.count m }
    planned := plan.components.length
    services := ← named.mapM fun (m, c) => t.serviceEntry m c }

end Tally

end ServiceBoundary
