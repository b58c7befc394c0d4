import ServiceBoundary.Text.Blank

/-!
# Paths

A path is a text whose parts are separated by `/`. Paths are taken as written: joining two of them
removes nothing, and `..` is a part like any other. Only the way to the directory above looks
closer: it passes over separators and `.` at the end, because they name nothing of their own.

* `Path.join`        a path seen from a directory;
* `Path.parent?`     the path without its last part;
* `Path.makeable`    the path and the directories above it, as far as they could be made;
* `Path.split`       what stands between the separators.
-/

namespace ServiceBoundary.Path

def isAbsolute (p : String) : Bool := p.toList.head? == some '/'

/-- the path `p` seen from the directory `base`; an absolute path stands for itself -/
def join (base p : String) : String :=
  if isAbsolute p || base.isEmpty then p
  else if base.toList.getLast? == some '/' then base ++ p
  else base ++ "/" ++ p

/-- what stands between the separators; a separator at an end leaves an empty part there -/
def split : (cs : List Char) → List (List Char)
  | [] => [[]]
  | c :: cs =>
    if c = '/' then [] :: split cs
    else
      match split cs with
      | [] => [[c]]
      | part :: parts => (c :: part) :: parts

/-! ## the directory above

Characters come in reverse here, so that the end of a path is the start of a list. -/

/-- without the separators and the parts `.` at the end -/
def strip : (reversed : List Char) → List Char
  | '/' :: cs => strip cs
  | '.' :: '/' :: cs => strip cs
  | ['.'] => []
  | cs => cs

/-- the start of a path that no step upwards takes away bit by bit: the root, or a first part `.` -/
def lead : (cs : List Char) → List Char
  | '/' :: _ => ['/']
  | ['.'] => ['.']
  | '.' :: '/' :: _ => ['.']
  | _ => []

/-- the path without its last part, on characters -/
def parentOf (cs : List Char) : Option (List Char) :=
  match strip (cs.drop (lead cs).length).reverse with
  | [] => if lead cs = ['.'] then some [] else none
  | rest => some (lead cs ++ (strip (rest.dropWhile (· ≠ '/'))).reverse)

/-- The path without its last part. The root and the empty path have none, and a path of one part
lies in the empty path. -/
def parent? (p : String) : Option String := (parentOf p.toList).map String.ofList

theorem length_strip_le (cs : List Char) : (strip cs).length ≤ cs.length := by
  fun_induction strip cs <;> grind

theorem length_lead_le (cs : List Char) : (lead cs).length ≤ cs.length := by
  unfold lead
  split <;> simp

theorem strip_ne_slash {cs rest : List Char} : strip cs ≠ '/' :: rest := by
  fun_induction strip cs with
  | case1 cs ih => exact ih
  | case2 cs ih => exact ih
  | case3 => simp
  | case4 cs h _ _ => exact fun hc => h rest hc

theorem length_lt_of_parentOf {cs up : List Char} (h : parentOf cs = some up) :
    up.length < cs.length := by
  have hlead := length_lead_le cs
  unfold parentOf at h
  split at h
  · next hs =>
    split at h
    · next hl =>
      cases h
      rw [hl] at hlead
      exact Nat.lt_of_lt_of_le (by simp) hlead
    · cases h
  · next rest hne =>
    cases h
    match hs : strip (cs.drop (lead cs).length).reverse with
    | [] => exact absurd hs hne
    | c :: tail =>
      have hlen := length_strip_le (cs.drop (lead cs).length).reverse
      have hc : c ≠ '/' := fun hc => strip_ne_slash (hc ▸ hs)
      have hdrop : ((c :: tail).dropWhile (· ≠ '/')).length ≤ tail.length := by
        rw [List.dropWhile_cons_of_pos (by simpa using hc)]
        exact (List.dropWhile_suffix _).length_le
      have hstrip := length_strip_le ((c :: tail).dropWhile (· ≠ '/'))
      rw [hs] at hlen
      simp only [List.length_append, List.length_reverse, List.length_drop, List.length_cons] at *
      omega

/-- the path and what lies above it, without the empty path and the root, which are always there -/
def makeableOf (cs : List Char) : List (List Char) :=
  match _h : parentOf cs with
  | none => []
  | some up => cs :: makeableOf up
termination_by cs.length
decreasing_by exact length_lt_of_parentOf _h

/-- the path and the directories above it, the innermost first, as far as they could be made -/
def makeable (p : String) : List String := (makeableOf p.toList).map String.ofList

end ServiceBoundary.Path
