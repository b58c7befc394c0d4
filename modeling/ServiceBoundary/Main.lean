import ServiceBoundary.Program

/-!
# The command line

The program on a machine with files: its requests go to the file system and its texts to the
terminal.
-/

namespace ServiceBoundary

/-- what runs on the machine, with the threshold of the journal -/
abbrev Machine : Type → Type := StateT Level IO

namespace Machine

def reason : IO.Error → FileError
  | .noFileOrDirectory .. => .missing
  | .alreadyExists .. => .taken
  | .inappropriateType _ code _ =>
    -- some requests tell the code with its sign changed
    if code = 20 ∨ code = -20 then .notDirectory else .isDirectory
  | .invalidArgument _ code details =>
    if code = 36 ∨ code = -36 then .nameTooLong else .other details
  | e => .other (toString e)

/-- the outcome of a request -/
def attempt {α : Type} (request : IO α) : Machine (Except FileError α) := do
  match ← request.toBaseIO with
  | .ok a => return .ok a
  | .error e => return .error (reason e)

/-- the text that the bytes are -/
def decoded (bytes : ByteArray) : Except FileError String :=
  match String.fromUTF8? bytes with
  | some text => .ok text
  | none => .error .notText

instance : Host Machine where
  present path := return (← attempt (IO.FS.realPath path)).isOk
  isDirectory path := return (← attempt (IO.FS.realPath (path ++ "/."))).isOk
  readText path := return (← attempt (IO.FS.readBinFile path)) >>= decoded
  makeDirectory path := attempt (IO.FS.createDir path)
  writeText path text := attempt (IO.FS.writeFile path text)
  tellUpTo level := set level
  log e := do if (← get).tells e.level then IO.eprint e.line
  notify text := IO.eprint text
  print text := IO.print text

/-- a variable and its value -/
def binding? (entry : String) : Option (String × String) :=
  match entry.splitOn "=" with
  | name :: value :: more => some (name, "=".intercalate (value :: more))
  | _ => none

def environment : IO (List (String × String)) := do
  let block ← IO.FS.readBinFile "/proc/self/environ"
  return (((String.fromUTF8? block).getD "").splitOn "\x00").filterMap binding?

end Machine

end ServiceBoundary

open ServiceBoundary in
def main (args : List String) : IO UInt32 := do
  let l : Locator := {
    environment := ← Machine.environment
    workDirectory := toString (← IO.currentDir) }
  let (code, _) ← (Host.execute (m := Machine) args l).run .info
  return code.toUInt32
