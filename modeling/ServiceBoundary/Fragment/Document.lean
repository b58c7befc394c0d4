import ServiceBoundary.Json.Basic
import ServiceBoundary.ServicePlan

/-!
# The plan as a document

The whole plan as JSON, with numbers in decimal.
-/

namespace ServiceBoundary.Fragment

open Json (Tree)

def memoryTree (m : MemoryRegion) : Tree :=
  .object [("virt", .ofWord m.virt), ("phys", .ofWord m.phys), ("size", .ofWord m.size)]

def dmaTree (d : DmaRegion) : Tree := .object [("addr", .ofWord d.addr), ("size", .ofWord d.size)]

def componentTree (c : Component) : Tree :=
  .object [
    ("name", .string c.name),
    ("source", .string c.source),
    ("memory", .array (c.resources.memory.map memoryTree)),
    ("dma", .array (c.resources.dma.map dmaTree)),
    ("flags", .ofTexts c.flags)]

def planTree (plan : ServicePlan) : Tree :=
  .object [("components", .array (plan.components.map componentTree))]

def document (plan : ServicePlan) : String := (planTree plan).pretty ++ "\n"

end ServiceBoundary.Fragment
