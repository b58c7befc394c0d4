import ServiceBoundary.Declaration
import ServiceBoundary.Fragment.Style
import ServiceBoundary.Library
import ServiceBoundary.Tally.Folding
import ServiceBoundary.Toml.Schema

/-!
# Manifests

A manifest declares the modules of a system and says what is written for them: the flag policy in
the table `plan`, outputs and their style in the table `emit`, and one table of `tasks` for each
module. Everything but the name and the artefact of a module may be left out, and no table takes a
key that it does not know.
-/

namespace ServiceBoundary

/-- a template of the user and where its text goes -/
structure TemplateEntry where
  /-- the name, for messages -/
  name : String
  /-- the path of the template, with placeholders -/
  source : String
  /-- the path of its output, with placeholders -/
  output : String
deriving DecidableEq, Repr

/-- what is written, and where -/
structure Emission where
  /-- the path of the service table, with placeholders -/
  serviceTable : Option String := none
  /-- the path of the make fragment, with placeholders -/
  makeFlags : Option String := none
  /-- the style of both -/
  style : Fragment.Style := {}
  templates : List TemplateEntry := []
deriving DecidableEq, Repr

/-- the modules of a system and what is written for them -/
structure Manifest where
  policy : FlagPolicy := .local
  /-- what is written -/
  emission : Emission := {}
  tasks : List Declaration := []
deriving DecidableEq, Repr

/-- why a text is no manifest, or no list of roots -/
inductive DocumentError where
  /-- the text is no document -/
  | malformed (e : Toml.ReadError)
  /-- the document does not fit -/
  | unfit (e : Toml.SchemaError)
deriving DecidableEq, Repr

def DocumentError.message : DocumentError → String
  | .malformed e => e.message
  | .unfit e => e.message

/-- the record of a text -/
def Toml.Record.parse [Library] {α : Type} (r : Toml.Record α) (source : String) :
    Except DocumentError α := do
  let entries ← (Library.document source).mapError .malformed
  (r.readTable entries).mapError .unfit

namespace Manifest

open Toml (Record Value SchemaError)

/-- a memory region: virtual address, physical address and size -/
def memoryRegion (v : Value) : Except SchemaError MemoryRegion :=
  (Toml.row 3 v).map fun r => { virt := r[0], phys := r[1], size := r[2] }

def dmaRegion (v : Value) : Except SchemaError DmaRegion :=
  (Toml.row 2 v).map fun r => { addr := r[0], size := r[1] }

def taskRecord : Record Declaration where
  title := "struct TaskEntry"
  base := { name := "", source := "" }
  fields := [
    { name := "name", required := true
      put := fun v d => (Toml.text v).map fun s => { d with name := s } },
    { name := "file", required := true
      put := fun v d => (Toml.text v).map fun s => { d with source := s } },
    { name := "mem"
      put := fun v d => (Toml.list memoryRegion v).map fun l =>
        { d with resources := { d.resources with memory := l } } },
    { name := "dma"
      put := fun v d => (Toml.list dmaRegion v).map fun l =>
        { d with resources := { d.resources with dma := l } } },
    { name := "deps"
      put := fun v d => (Toml.list Toml.text v).map fun l => { d with dependencies := l } },
    { name := "cfg"
      put := fun v d => (Toml.list Toml.text v).map fun l => { d with flags := l } }]

def templateRecord : Record TemplateEntry where
  title := "struct TemplateEntry"
  base := { name := "", source := "", output := "" }
  fields := [
    { name := "name", required := true
      put := fun v t => (Toml.text v).map fun s => { t with name := s } },
    { name := "source", required := true
      put := fun v t => (Toml.text v).map fun s => { t with source := s } },
    { name := "output", required := true
      put := fun v t => (Toml.text v).map fun s => { t with output := s } }]

/-- a change of the style -/
def restyle (f : String → Fragment.Style → Fragment.Style) (v : Value) (e : Emission) :
    Except SchemaError Emission :=
  (Toml.text v).map fun s => { e with style := f s e.style }

def emissionRecord : Record Emission where
  title := "struct EmitConfig"
  base := {}
  fields := [
    { name := "rust"
      put := fun v e => (Toml.text v).map fun s => { e with serviceTable := some s } },
    { name := "make"
      put := fun v e => (Toml.text v).map fun s => { e with makeFlags := some s } },
    { name := "table", put := restyle fun s style => { style with table := s } },
    { name := "item_type", put := restyle fun s style => { style with itemType := s } },
    { name := "item_macro", put := restyle fun s style => { style with itemMacro := s } },
    { name := "cfg_prefix", put := restyle fun s style => { style with flagMark := s } },
    { name := "templates"
      put := fun v e => (Toml.list templateRecord.read v).map fun l => { e with templates := l } }]

/-- the names of the flag policies -/
def policies : List (String × FlagPolicy) :=
  [FlagPolicy.local, FlagPolicy.transitive].map fun p => (p.label, p)

def planRecord : Record FlagPolicy where
  title := "struct PlanConfig"
  base := .local
  fields := [{ name := "flag_policy", put := fun v _ => Toml.variant policies v }]

def record : Record Manifest where
  title := "struct Manifest"
  base := {}
  fields := [
    { name := "plan", put := fun v m => (planRecord.read v).map fun p => { m with policy := p } },
    { name := "emit", put := fun v m => (emissionRecord.read v).map fun e => { m with emission := e } },
    { name := "tasks"
      put := fun v m => (Toml.list taskRecord.read v).map fun l => { m with tasks := l } }]

def parse [Library] (source : String) : Except DocumentError Manifest := record.parse source

end Manifest

end ServiceBoundary
