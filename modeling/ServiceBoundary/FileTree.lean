import ServiceBoundary.Path

/-!
# Trees of files

A tree has directories and files of bytes, and no links. A place in it is the list of names on the
way from the root, the last one first, so that the directory above is the tail. The root is always a
directory.

Paths are followed part by part: each step but the last must lead to a directory, `..` leads to the
directory above, and `.` and the empty part lead nowhere. A relative path is followed from where it
is seen, but whether it may be asked for is decided on the path as it was given: an empty one is
refused, and one that is too long, but not one that a long way leads to.

* `FileTree.Route`           a path as it was given, with the way from the root;
* `FileTree.get?`            what is at a place;
* `FileTree.follow`          the place of a path;
* `FileTree.readText`        the text of a file;
* `FileTree.makeDirectory`   a directory more;
* `FileTree.writeText`       a file with a new text.
-/

namespace ServiceBoundary

/-- why a request to the file system fails -/
inductive FileError where
  | missing
  | notDirectory
  | isDirectory
  | taken
  | nameTooLong
  | nulInName
  | notText
  /-- a reason that a tree of files does not have -/
  | other (reason : String)
deriving DecidableEq, Repr

def FileError.message : FileError → String
  | .missing => "No such file or directory (os error 2)"
  | .notDirectory => "Not a directory (os error 20)"
  | .isDirectory => "Is a directory (os error 21)"
  | .taken => "File exists (os error 17)"
  | .nameTooLong => "File name too long (os error 36)"
  | .nulInName => "file name contained an unexpected NUL byte"
  | .notText => "stream did not contain valid UTF-8"
  | .other reason => reason

/-- a place in a tree: the names on the way from the root, the last one first -/
abbrev Place := List String

inductive Entry where
  | directory
  | file (content : ByteArray)

/-- directories and files; of two entries at one place the first counts -/
structure FileTree where
  /-- the entries, with their places -/
  entries : List (Place × Entry)

namespace FileTree

def get? (t : FileTree) (here : Place) : Option Entry :=
  if here = [] then some .directory else t.entries.lookup here

/-- the tree with something else at the place -/
def put (t : FileTree) (here : Place) (e : Entry) : FileTree := ⟨(here, e) :: t.entries⟩

theorem get?_put (t : FileTree) (here other : Place) (e : Entry) (h : here ≠ []) :
    (t.put here e).get? other = if other = here then some e else t.get? other := by
  by_cases ho : other = here
  · simp [get?, put, ho, h]
  · have : (other == here) = false := by simpa using ho
    simp [get?, put, ho, List.lookup_cons, this]

def isDirectory (t : FileTree) (here : Place) : Bool :=
  match t.get? here with
  | some .directory => true
  | _ => false

/-- the longest name, in bytes -/
def longestName : Nat := 255

/-- paths of so many bytes are refused -/
def pathLimit : Nat := 4096

/-- one part of a path further -/
def step (t : FileTree) (here : Place) (part : String) : Except FileError Place :=
  if !t.isDirectory here then .error .notDirectory
  else if part = "" ∨ part = "." then .ok here
  else if part = ".." then .ok here.tail
  else if longestName < part.utf8ByteSize then .error .nameTooLong
  else if (t.get? (part :: here)).isNone then .error .missing
  else .ok (part :: here)

/-- a path and the way that it stands for -/
structure Route where
  /-- the path as it was given -/
  given : String
  /-- the same from the root -/
  whole : String

/-- a path from the root is its own way -/
instance : Coe String Route := ⟨fun path => ⟨path, path⟩⟩

/-- the parts of a path that can be followed -/
def parts (path : Route) : Except FileError (List String) :=
  if path.given.toList.contains '\x00' then .error .nulInName
  else if path.given.isEmpty then .error .missing
  else if pathLimit ≤ path.given.utf8ByteSize then .error .nameTooLong
  else .ok ((Path.split path.whole.toList).map String.ofList)

def follow (t : FileTree) (path : Route) : Except FileError Place := do
  (← parts path).foldlM t.step []

/-- what a path names -/
def find? (t : FileTree) (path : Route) : Option Entry :=
  match t.follow path with
  | .ok here => t.get? here
  | .error _ => none

def namesDirectory (t : FileTree) (path : Route) : Bool :=
  match t.follow path with
  | .ok here => t.isDirectory here
  | .error _ => false

def readText (t : FileTree) (path : Route) : Except FileError String := do
  match t.get? (← t.follow path) with
  | none => .error .missing
  | some .directory => .error .isDirectory
  | some (.file content) =>
    match String.fromUTF8? content with
    | some text => .ok text
    | none => .error .notText

/-- A path that is to be made: the place of the directory that it is in, its last part, and whether
a separator follows that part. -/
structure Target where
  /-- where it is made -/
  directory : Place
  name : String
  /-- whether the path goes on with a separator -/
  trailing : Bool

/-- the target of a path; the directory must be there -/
def target (t : FileTree) (path : Route) : Except FileError Target := do
  let parts ← parts path
  let named := Text.dropTrailing (· == "") parts
  let directory ← named.dropLast.foldlM t.step []
  if !t.isDirectory directory then throw .notDirectory
  return { directory, name := named.getLastD "", trailing := named.length < parts.length }

/-- whether the last part of the target names a directory that is already there -/
def Target.isStanding (t : Target) : Bool := t.name = "" || t.name = "." || t.name = ".."

def Target.place (t : Target) : Place := t.name :: t.directory

/-- a directory more -/
def makeDirectory (t : FileTree) (path : Route) : Except FileError FileTree := do
  let target ← t.target path
  if target.isStanding then throw .taken
  if longestName < target.name.utf8ByteSize then throw .nameTooLong
  if (t.get? target.place).isSome then throw .taken
  return t.put target.place .directory

/-- the file with a new text; it is made if it is not there -/
def writeText (t : FileTree) (path : Route) (text : String) : Except FileError FileTree := do
  let target ← t.target path
  if target.isStanding || target.trailing then throw .isDirectory
  if longestName < target.name.utf8ByteSize then throw .nameTooLong
  if t.isDirectory target.place then throw .isDirectory
  return t.put target.place (.file text.toUTF8)

end FileTree

end ServiceBoundary
