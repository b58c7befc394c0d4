import ServiceBoundary.Proofs.Results
import ServiceBoundary.Proofs.Walk
import ServiceBoundary.ServicePlan

/-!
# Plans without failures

Where no walk runs in a circle, the answers of a tally are those of functions that cannot fail.

* `Tally.owned`       the regions of a service;
* `Tally.ownFlags`    its flags, under a policy;
* `Tally.composed`    its component;
* `plan_eq_ok`        the plan: one component for each service, in declared order.
-/

namespace ServiceBoundary

namespace Tally
variable {g : ModuleGraph} {t : Tally g} {m : Fin g.size}

/-- the regions of the module and of what is folded into it -/
def owned (t : Tally g) (m : Fin g.size) : Resources :=
  Resources.join ((t.group m).map fun k => (g.get k).resources)

/-- the flags of the module, under a policy -/
def ownFlags (t : Tally g) (policy : FlagPolicy) (m : Fin g.size) : List String :=
  match policy with
  | .local => (g.get m).flags
  | .transitive => ((t.group m).flatMap fun k => (g.get k).flags).eraseDups

def composed (t : Tally g) (policy : FlagPolicy) (m : Fin g.size) : Component where
  name := g.name m
  source := (g.get m).source
  resources := t.owned m
  flags := t.ownFlags policy m

section
variable (h : ¬ t.Circles m)
include h

theorem resources_eq : t.resources m = .ok (t.owned m) := by
  rw [resources, members_eq h]
  rfl

theorem flags_eq (policy : FlagPolicy) : t.flags m policy = .ok (t.ownFlags policy m) := by
  cases policy with
  | «local» => rfl
  | transitive =>
    rw [flags, members_eq h]
    rfl

theorem component_eq (policy : FlagPolicy) :
    t.component policy m = .ok (t.composed policy m) := by
  rw [component, resources_eq h, flags_eq h]
  rfl

end

theorem plan_eq_ok (h : ∀ m, 1 < t.count m → ¬ t.Circles m) (hne : t.standalone ≠ [])
    (policy : FlagPolicy) :
    t.plan policy = .ok { components := t.standalone.map (t.composed policy) } := by
  have hparts : t.standalone.mapM (t.component policy) =
      .ok (t.standalone.map (t.composed policy)) :=
    mapM_eq_ok_map fun m hm => component_eq (h m (mem_standalone.1 hm)) policy
  have hempty : ¬ t.standalone.isEmpty = true := by rwa [List.isEmpty_iff]
  rw [plan, if_neg hempty, hparts]
  rfl

theorem plan_eq_error (h : t.standalone = []) (policy : FlagPolicy) :
    t.plan policy = .error .emptySelection := by
  rw [plan, h]
  rfl

end Tally

end ServiceBoundary
