import ServiceBoundary.Declaration
import ServiceBoundary.Distinct
import ServiceBoundary.ModuleGraph.Basic

/-!
# Linking declarations

`ModuleGraph.link` turns a list of declarations into a graph. It fails if a name is declared twice,
and only then looks at dependencies: the first dependency of the first module that names nothing is
reported. A dependency that is listed again counts once, at its first place.
-/

namespace ServiceBoundary

/-- why declarations form no graph -/
inductive LinkError where
  /-- two declarations share a name -/
  | duplicateModule (name : String)
  /-- a module depends on a name that nobody declares -/
  | unknownDependency (module : String) (dependency : String)
deriving DecidableEq, Repr

def LinkError.message : LinkError → String
  | .duplicateModule name => "module '" ++ name ++ "' is declared more than once"
  | .unknownDependency module dependency =>
    "module '" ++ module ++ "' depends on unknown module '" ++ dependency ++ "'"

namespace Declaration

/-- the places of the dependencies in a list of names -/
def places (names : List String) (d : Declaration) :
    Except LinkError (List (Fin names.length)) :=
  d.dependencies.mapM fun dep =>
    match names.finIdxOf? dep with
    | some i => .ok i
    | none => .error (.unknownDependency d.name dep)

/-- the module of a declaration; dependencies become places in a list of names -/
def link (names : List String) (d : Declaration) :
    Except LinkError { m : Module names.length // m.name = d.name } := do
  let places ← d.places names
  return ⟨{ name := d.name, source := d.source, resources := d.resources, flags := d.flags
            dependencies := places.eraseDups, dependencies_nodup := nodup_eraseDups places }, rfl⟩

def linkAll (names : List String) : (ds : List Declaration) →
    Except LinkError { ms : List (Module names.length) // ms.map Module.name = ds.map name }
  | [] => .ok ⟨[], rfl⟩
  | d :: ds => do
    let m ← d.link names
    let ms ← linkAll names ds
    return ⟨m.val :: ms.val, by simp [m.property, ms.property]⟩

end Declaration

namespace ModuleGraph

def link (ds : List Declaration) : Except LinkError ModuleGraph :=
  let names := ds.map Declaration.name
  match h : repeats names with
  | name :: _ => .error (.duplicateModule name)
  | [] => do
    let ms ← Declaration.linkAll names ds
    return {
      size := names.length
      modules := ⟨ms.val.toArray, by
        have := congrArg List.length ms.property
        simpa [names] using this⟩
      names_nodup := by
        have := (repeats_eq_nil_iff names).1 h
        simpa [ms.property] using this }

end ModuleGraph

end ServiceBoundary
