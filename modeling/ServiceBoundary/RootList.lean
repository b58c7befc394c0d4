import ServiceBoundary.Manifest

/-!
# Lists of roots

A file of its own names the modules that a build asks for, under the key `module-selected`. Other
keys are for other readers and are passed over.
-/

namespace ServiceBoundary.RootList

/-- the list under its key -/
def record : Toml.Record (List String) where
  title := "struct Selection"
  strict := false
  base := []
  fields := [{ name := "module-selected", put := fun v _ => Toml.list Toml.text v }]

def parse [Library] (source : String) : Except DocumentError (List String) := record.parse source

end ServiceBoundary.RootList
