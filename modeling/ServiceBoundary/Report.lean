import ServiceBoundary.Fragment.Listing
import ServiceBoundary.Summary

/-!
# Reports

How much a run tells about its decisions: nothing, the summary, or the summary with the whole plan.
-/

namespace ServiceBoundary

/-- how much is told -/
inductive ReportMode where
  | off
  | summary
  | full
deriving DecidableEq, Repr

def ReportMode.label : ReportMode → String
  | .off => "off"
  | .summary => "summary"
  | .full => "full"

/-- the report on a tally and a plan -/
def Tally.report {g : ModuleGraph} (t : Tally g) (plan : ServicePlan) :
    ReportMode → Except PlanningError String
  | .off => .ok ""
  | .summary => (t.summary plan).map Summary.text
  | .full => (t.summary plan).map fun s => s.text ++ "\n" ++ Fragment.listing plan ++ "\n"

end ServiceBoundary
