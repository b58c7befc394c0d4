import ServiceBoundary.Fragment.Style
import ServiceBoundary.ServicePlan
import ServiceBoundary.Text.Quoted

/-!
# The service table

The services of a plan as a constant table, one item a service: its name and its artefact as quoted
texts, its memory regions as triples and its DMA regions as pairs of hexadecimal numbers.
-/

namespace ServiceBoundary.Fragment

open Text (quoted)

def tuple (ws : List UInt64) : String := "(" ++ ", ".intercalate (ws.map Hex.text) ++ ")"

def tuples (rows : List (List UInt64)) : String := "&[" ++ ", ".intercalate (rows.map tuple) ++ "]"

def memoryRow (m : MemoryRegion) : List UInt64 := [m.virt, m.phys, m.size]

def dmaRow (d : DmaRegion) : List UInt64 := [d.addr, d.size]

/-- one field of an item -/
def itemField (name value : String) : String := "        " ++ name ++ ": " ++ value ++ ",\n"

def item (style : Style) (c : Component) : String :=
  "    " ++ style.itemMacro ++ "! \x7b\n"
    ++ itemField "name" (quoted c.name)
    ++ itemField "file" (quoted c.source)
    ++ itemField "mem" (tuples (c.resources.memory.map memoryRow))
    ++ itemField "dma" (tuples (c.resources.dma.map dmaRow))
    ++ "    \x7d,\n"

def serviceTable (style : Style) (plan : ServicePlan) : String :=
  header "//" ++ "pub const " ++ style.table ++ ": &[" ++ style.itemType ++ "] = &[\n"
    ++ String.join (plan.components.map (item style)) ++ "];\n"

end ServiceBoundary.Fragment
