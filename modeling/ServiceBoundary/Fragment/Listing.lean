import ServiceBoundary.ServicePlan
import ServiceBoundary.Text.Quoted

/-!
# The plan as a listing

The whole plan for a reader, one field or item a line. A line stands four blanks deeper than the
bracket around it, every entry is followed by a comma, and an empty list is written as its two
brackets.
-/

namespace ServiceBoundary.Fragment

open Text (quoted)

/-- the blanks before a line of some depth -/
def indent (depth : Nat) : String := String.ofList (List.replicate (4 * depth) ' ')

/-- entries between brackets, at some depth -/
def enclosed (opening closing : String) (depth : Nat) (entries : List String) : String :=
  if entries.isEmpty then opening ++ closing
  else opening ++ "\n" ++ String.join (entries.map fun e => indent (depth + 1) ++ e ++ ",\n")
    ++ indent depth ++ closing

/-- a record with its fields, at some depth -/
def record (name : String) (depth : Nat) (fields : List (String × String)) : String :=
  enclosed (name ++ " \x7b") "\x7d" depth (fields.map fun f => f.1 ++ ": " ++ f.2)

def memoryRecord (depth : Nat) (m : MemoryRegion) : String :=
  record "MemRegion" depth [
    ("virt", toString m.virt.toNat), ("phys", toString m.phys.toNat), ("size", toString m.size.toNat)]

def dmaRecord (depth : Nat) (d : DmaRegion) : String :=
  record "DmaRegion" depth [("addr", toString d.addr.toNat), ("size", toString d.size.toNat)]

def componentRecord (depth : Nat) (c : Component) : String :=
  let inner := enclosed "[" "]" (depth + 1)
  record "Component" depth [
    ("name", quoted c.name),
    ("source", quoted c.source),
    ("memory", inner (c.resources.memory.map (memoryRecord (depth + 2)))),
    ("dma", inner (c.resources.dma.map (dmaRecord (depth + 2)))),
    ("flags", inner (c.flags.map quoted))]

def listing (plan : ServicePlan) : String :=
  record "Plan" 0 [("components", enclosed "[" "]" 1 (plan.components.map (componentRecord 2)))]

end ServiceBoundary.Fragment
