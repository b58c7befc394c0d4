import ServiceBoundary.Region

/-!
# Module declarations

A module as it is written down: its dependencies are still names, and nothing says that the names
exist or that two declarations differ.
-/

namespace ServiceBoundary

/-- a module as written down -/
structure Declaration where
  /-- the name, by which other modules and the selection refer to it -/
  name : String
  /-- the artefact that is loaded for the module -/
  source : String
  resources : Resources := {}
  /-- the names of the modules it depends on, in order -/
  dependencies : List String := []
  flags : List String := []
deriving DecidableEq, Repr

end ServiceBoundary
