import Std.Data.TreeMap.Lemmas
import ServiceBoundary.Region

/-!
# The graph of modules

A graph of `size` modules, numbered in the order of their declarations. A dependency is a number
below `size`, so no look-up can miss; no module lists a dependency twice, and no two modules share
a name. Cycles are allowed, and so is a module that depends on itself. The graph keeps a map from
the names to the numbers.

* `ModuleGraph.find?`  the module of a name, as the map has it;
* `find?_eq_search`    a search through the modules has the same answer;
* `find?_name`         every module is found under its own name.
-/

namespace ServiceBoundary

/-- a module of a graph with `n` modules -/
structure Module (n : Nat) where
  name : String
  /-- the artefact that is loaded for the module -/
  source : String
  resources : Resources
  flags : List String
  /-- the modules it depends on, in declared order -/
  dependencies : List (Fin n)
  /-- no dependency is listed twice -/
  dependencies_nodup : dependencies.Nodup

/-- the numbers of modules, by name -/
def Module.numbers {n : Nat} (modules : Vector (Module n) n) : Std.TreeMap String (Fin n) :=
  Std.TreeMap.ofList ((List.finRange n).map fun m => ((modules.get m).name, m))

/-- the modules of a system with their dependencies -/
structure ModuleGraph where
  size : Nat
  /-- the modules in declared order -/
  modules : Vector (Module size) size
  /-- no two modules share a name -/
  names_nodup : (modules.toList.map Module.name).Nodup
  /-- the modules' numbers, by name -/
  byName : Std.TreeMap String (Fin size) := Module.numbers modules
  byName_eq : byName = Module.numbers modules := by rfl

namespace ModuleGraph
variable (g : ModuleGraph)

/-- the modules' numbers, in declared order -/
def ids : List (Fin g.size) := List.finRange g.size

def get (m : Fin g.size) : Module g.size := g.modules.get m

def name (m : Fin g.size) : String := (g.get m).name

/-- what a module depends on, in declared order -/
def dependencies (m : Fin g.size) : List (Fin g.size) := (g.get m).dependencies

def find? (name : String) : Option (Fin g.size) := g.byName[name]?

@[simp] theorem mem_ids (m : Fin g.size) : m ∈ g.ids := List.mem_finRange m

theorem dependencies_nodup (m : Fin g.size) : (g.dependencies m).Nodup :=
  (g.get m).dependencies_nodup

theorem name_inj {m k : Fin g.size} : g.name m = g.name k ↔ m = k := by
  refine ⟨fun h => ?_, fun h => h ▸ rfl⟩
  change g.modules[m.val].name = g.modules[k.val].name at h
  have hn := g.names_nodup
  rw [List.nodup_iff_pairwise_ne, List.pairwise_iff_getElem] at hn
  rcases Nat.lt_trichotomy m.val k.val with hlt | heq | hgt
  · have := hn m.val k.val (by simp) (by simp) hlt
    exact absurd (by simpa using h) (by simpa using this)
  · exact Fin.ext heq
  · have := hn k.val m.val (by simp) (by simp) hgt
    exact absurd (by simpa using h.symm) (by simpa using this)

theorem find?_name (m : Fin g.size) : g.find? (g.name m) = some m := by
  rw [find?, g.byName_eq]
  refine Std.TreeMap.getElem?_ofList_of_mem Std.ReflCmp.compare_self ?_
    (List.mem_map_of_mem (g.mem_ids m))
  rw [List.pairwise_map]
  refine (List.nodup_finRange g.size).imp fun hne heq => hne (g.name_inj.1 ?_)
  exact Std.LawfulEqCmp.eq_of_compare heq

theorem find?_eq_none_iff {n : String} : g.find? n = none ↔ ∀ m, g.name m ≠ n := by
  constructor
  · rintro h m rfl
    rw [g.find?_name] at h
    cases h
  · intro h
    rw [find?, g.byName_eq]
    refine Std.TreeMap.getElem?_ofList_of_contains_eq_false ?_
    rw [← Bool.not_eq_true, List.contains_iff_mem, List.map_map, List.mem_map]
    rintro ⟨m, -, hm⟩
    exact h m hm

theorem find?_eq_some_iff {n : String} {m : Fin g.size} : g.find? n = some m ↔ g.name m = n := by
  constructor
  · intro h
    by_cases hn : ∃ k, g.name k = n
    · obtain ⟨k, rfl⟩ := hn
      rw [g.find?_name] at h
      rw [Option.some.inj h]
    · rw [g.find?_eq_none_iff.2 (not_exists.1 hn)] at h
      cases h
  · rintro rfl
    exact g.find?_name m

/-- **The map and the modules agree.** What the map has under a name is what a search through the
modules would find. -/
theorem find?_eq_search (n : String) : g.find? n = g.ids.find? fun m => g.name m == n := by
  cases hfound : g.ids.find? fun m => g.name m == n with
  | none =>
    rw [List.find?_eq_none] at hfound
    exact g.find?_eq_none_iff.2 fun m hm => hfound m (g.mem_ids m) (beq_of_eq hm)
  | some m =>
    have hm := List.find?_some (p := fun m => g.name m == n) hfound
    exact g.find?_eq_some_iff.2 (beq_iff_eq.1 hm)

end ModuleGraph

end ServiceBoundary
