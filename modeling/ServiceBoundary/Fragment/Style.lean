/-!
# The style of fragments

The names that the service table uses, and what stands before each build flag.
-/

namespace ServiceBoundary.Fragment

/-- names and the flag mark that fragments are written with -/
structure Style where
  table : String := "TASK_FILES"
  itemType : String := "KernelServices"
  itemMacro : String := "service"
  /-- what stands before each build flag -/
  flagMark : String := "--cfg="
deriving DecidableEq, Repr

/-- the first line of a fragment, a comment behind the mark `comment` -/
def header (comment : String) : String := comment ++ " generated by svcplan; do not edit\n"

end ServiceBoundary.Fragment
