/-!
# Memory and DMA regions

What a module asks of the machine: windows of memory, mapped from a virtual to a physical address,
and windows for direct memory access. All numbers are machine words.
-/

namespace ServiceBoundary

/-- a window of memory -/
structure MemoryRegion where
  virt : UInt64
  phys : UInt64
  size : UInt64
deriving DecidableEq, Repr

/-- a window for direct memory access -/
structure DmaRegion where
  addr : UInt64
  size : UInt64
deriving DecidableEq, Repr

/-- the regions of one module, or of a service with all that it absorbed -/
structure Resources where
  memory : List MemoryRegion := []
  dma : List DmaRegion := []
deriving DecidableEq, Repr

namespace Resources

/-- both lists of regions, one after the other -/
instance : Append Resources where
  append a b := { memory := a.memory ++ b.memory, dma := a.dma ++ b.dma }

@[simp] theorem memory_append (a b : Resources) : (a ++ b).memory = a.memory ++ b.memory := rfl

@[simp] theorem dma_append (a b : Resources) : (a ++ b).dma = a.dma ++ b.dma := rfl

/-- the regions of a list of modules, in the order of the list -/
def join : List Resources → Resources
  | [] => {}
  | r :: rs => r ++ join rs

@[simp] theorem memory_join (rs : List Resources) :
    (join rs).memory = rs.flatMap Resources.memory := by
  induction rs with
  | nil => rfl
  | cons r rs ih => simp [join, ih]

@[simp] theorem dma_join (rs : List Resources) : (join rs).dma = rs.flatMap Resources.dma := by
  induction rs with
  | nil => rfl
  | cons r rs ih => simp [join, ih]

end Resources

end ServiceBoundary
