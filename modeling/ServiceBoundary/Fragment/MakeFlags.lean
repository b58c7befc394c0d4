import ServiceBoundary.Fragment.Style
import ServiceBoundary.ServicePlan

/-!
# The make fragment

One assignment that adds the build flags of all services, each flag behind a blank and the mark of
flags.
-/

namespace ServiceBoundary.Fragment

/-- the assignment of a plan's flags -/
def makeFlags (style : Style) (plan : ServicePlan) : String :=
  header "#" ++ "RUSTFLAGS +="
    ++ String.join (plan.allFlags.map fun flag => " " ++ style.flagMark ++ flag) ++ "\n"

end ServiceBoundary.Fragment
