import ServiceBoundary.Host
import ServiceBoundary.Library
import ServiceBoundary.ServicePlan

/-!
# Rendered templates

The templates of a manifest see the plan, all its flags and the directory that paths of the manifest
are seen from.

* `ServicePlan.render`       a template with a plan;
* `Host.renderTemplates`     all templates of a manifest.
-/

namespace ServiceBoundary

/-- a template that was rendered -/
structure RenderedTemplate where
  /-- the name of the entry in the manifest -/
  name : String
  /-- where the text belongs -/
  output : String
  text : String
deriving DecidableEq, Repr

open Template (Value)

def MemoryRegion.value (r : MemoryRegion) : Value :=
  .ofFields [("virt", .ofWord r.virt), ("phys", .ofWord r.phys), ("size", .ofWord r.size)]

def DmaRegion.value (r : DmaRegion) : Value :=
  .ofFields [("addr", .ofWord r.addr), ("size", .ofWord r.size)]

def Component.value (c : Component) : Value :=
  .ofFields [
    ("name", .text c.name), ("source", .text c.source),
    ("memory", .list (c.resources.memory.map MemoryRegion.value)),
    ("dma", .list (c.resources.dma.map DmaRegion.value)),
    ("flags", .ofTexts c.flags)]

namespace ServicePlan

def value (plan : ServicePlan) : Value :=
  .ofFields [("components", .list (plan.components.map Component.value))]

/-- what a template sees -/
def names (plan : ServicePlan) (baseDirectory : String) : Template.Frame :=
  [("plan", plan.value), ("flags", .ofTexts plan.allFlags), ("manifest_dir", .text baseDirectory)]

def render [Library] (plan : ServicePlan) (baseDirectory source : String) :
    Except Template.RenderError String :=
  Library.template source (plan.names baseDirectory)

end ServicePlan

namespace Host

variable {m : Type → Type} [Monad m] [Host m]

/-- the template of an entry; nothing is read before both paths are known -/
def renderTemplate [Library] (l : Locator) (plan : ServicePlan) (entry : TemplateEntry) :
    ExceptT Failure m RenderedTemplate := do
  let source ← Failure.during (.resolveSource entry.name entry.source) .placeholder
    (pure (l.resolve entry.source))
  let output ← Failure.during (.resolveOutput entry.name entry.output) .placeholder
    (pure (l.resolve entry.output))
  let template ← Failure.during (.readTemplate entry.name source) .file (readText source)
  let text ← Failure.during (.render entry.name source) .template
    (pure (plan.render l.baseDirectory template))
  return { name := entry.name, output, text }

/-- the templates of a manifest, in its order -/
def renderTemplates [Library] (l : Locator) (plan : ServicePlan)
    (entries : List TemplateEntry) :
    ExceptT Failure m (List RenderedTemplate) :=
  entries.mapM (renderTemplate l plan)

end Host

end ServiceBoundary
