import ServiceBoundary.Tally.Folding

/-!
# Service plans

The outcome of a run: one component for each service, with all that it must own.

* `Tally.plan`               the plan of a tally;
* `ServicePlan.component?`   the component of a name;
* `ServicePlan.allFlags`     the flags of all components, each once.
-/

namespace ServiceBoundary

/-- a service with everything it must own -/
structure Component where
  name : String
  /-- the artefact that is loaded for it -/
  source : String
  /-- its regions, and those of the modules it absorbs -/
  resources : Resources
  flags : List String
deriving DecidableEq, Repr

/-- the services of a system -/
structure ServicePlan where
  /-- the services, in declared order -/
  components : List Component
deriving DecidableEq, Repr

namespace ServicePlan

def component? (plan : ServicePlan) (name : String) : Option Component :=
  plan.components.find? fun c => c.name == name

/-- the flags of all components in order, each at its first place -/
def allFlags (plan : ServicePlan) : List String :=
  (plan.components.flatMap Component.flags).eraseDups

end ServicePlan

namespace Tally
variable {g : ModuleGraph}

def component (t : Tally g) (policy : FlagPolicy) (m : Fin g.size) :
    Except PlanningError Component := do
  let resources ← t.resources m
  let flags ← t.flags m policy
  return { name := g.name m, source := (g.get m).source, resources, flags }

/-- the plan of a tally; a tally without services has none -/
def plan (t : Tally g) (policy : FlagPolicy) : Except PlanningError ServicePlan := do
  if t.standalone.isEmpty then
    throw .emptySelection
  return { components := ← t.standalone.mapM (t.component policy) }

end Tally

end ServiceBoundary
