import ServiceBoundary.Host

/-!
# Workspaces

A host in memory: a tree of files, a working directory in it, and what was written for the user.
Relative paths are seen from the working directory.
-/

namespace ServiceBoundary

/-- a tree of files and a terminal -/
structure Workspace where
  tree : FileTree
  workDirectory : String := "/"
  /-- how much is told -/
  threshold : Level := .info
  /-- what was told -/
  notes : String := ""
  /-- what was printed -/
  output : String := ""

namespace Workspace

/-- a path seen from the working directory -/
def absolute (w : Workspace) (path : String) : FileTree.Route where
  given := path
  whole := Path.join w.workDirectory path

/-- a change of the tree; a failing one changes nothing -/
def change (w : Workspace) (f : FileTree → Except FileError FileTree) :
    Except FileError Unit × Workspace :=
  match f w.tree with
  | .ok tree => (.ok (), { w with tree })
  | .error e => (.error e, w)

/-- one event more -/
def tell (w : Workspace) (e : Event) : Workspace :=
  if w.threshold.tells e.level then { w with notes := w.notes ++ e.line } else w

instance : Host (StateM Workspace) where
  present path := fun w => ((w.tree.find? (w.absolute path)).isSome, w)
  isDirectory path := fun w => (w.tree.namesDirectory (w.absolute path), w)
  readText path := fun w => (w.tree.readText (w.absolute path), w)
  makeDirectory path := fun w => w.change fun t => t.makeDirectory (w.absolute path)
  writeText path text := fun w => w.change fun t => t.writeText (w.absolute path) text
  tellUpTo level := fun w => ((), { w with threshold := level })
  log e := fun w => ((), w.tell e)
  notify text := fun w => ((), { w with notes := w.notes ++ text })
  print text := fun w => ((), { w with output := w.output ++ text })

end Workspace

end ServiceBoundary
