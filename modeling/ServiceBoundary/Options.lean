import ServiceBoundary.Journal
import ServiceBoundary.Report

/-!
# Options

The command line is read from left to right. An option that takes a value takes it behind a `=` or
as the argument behind it; that argument must not look like an option. A value is looked at when the
next option or argument is accepted, so of two errors an unknown option comes first.

* `Options.ofArguments`   what a command line asks for.
-/

namespace ServiceBoundary

/-- what a command line asks for -/
structure Options where
  /-- the file with the list of roots -/
  rootsFile : Option String := none
  manifest : Option String := none
  /-- roots beside those in the file -/
  roots : List String := []
  policy : Option FlagPolicy := none
  /-- where the service table belongs -/
  serviceTable : Option String := none
  /-- where the make fragment belongs -/
  makeFlags : Option String := none
  /-- whether the plan is printed as a document -/
  json : Bool := false
  /-- whether fragments are printed and not written -/
  toOutput : Bool := false
  /-- how much is told, if anything is said about it -/
  reportMode : Option ReportMode := none
  /-- where the report belongs -/
  reportFile : Option String := none
  /-- how often more was asked for -/
  verbose : Nat := 0
  /-- whether only errors are told -/
  quiet : Bool := false
deriving DecidableEq, Repr

inductive UsageError where
  /-- an option that does not exist, or an argument that nothing takes -/
  | unknown
  /-- a value that does not fit, or none at all -/
  | value
  /-- options that exclude each other, or one that is given again -/
  | conflict
  /-- a value for an option that takes none -/
  | surplus
deriving DecidableEq, Repr

/-- why nothing is planned -/
inductive Stop where
  /-- the user asks how the program is used -/
  | help
  /-- the user asks which version it is -/
  | version
  /-- the command line is wrong -/
  | usage (e : UsageError)
deriving DecidableEq, Repr

def UsageError.text : UsageError → String
  | .unknown => "error: unexpected argument found\n"
  | .value => "error: a value is invalid or missing\n"
  | .conflict => "error: options cannot be used together\n"
  | .surplus => "error: an option takes no value\n"

namespace Options

/-- what the user is told about the use of the program -/
def helpText : String := "\n".intercalate [
  "Service boundary planner for multi-task embedded systems: picks isolated services and aggregates the resources each must own.",
  "",
  "Usage: svcplan [OPTIONS] [SELECTION]",
  "",
  "Arguments:",
  "  [SELECTION]  Selection file with `module-selected = [...]` (overrides SVCPLAN_SELECT)",
  "",
  "Options:",
  "      --manifest <MANIFEST>        Path to the module manifest (overrides SVCPLAN_MANIFEST and ./apps.toml)",
  "      --root <NAME>                Extra root module, appended after the selection file's roots",
  "      --flag-policy <FLAG_POLICY>  Whether folded modules contribute their build flags [possible values: local, transitive]",
  "      --rust-out <RUST_OUT>        Write the Rust service table here (overrides [emit].rust)",
  "      --make-out <MAKE_OUT>        Write the Makefile fragment here (overrides [emit].make)",
  "      --json                       Print the plan as JSON on stdout, ahead of any printed fragments",
  "      --stdout                     Print generated files on stdout instead of writing them",
  "      --report <REPORT>            Print a resolution report [default: off] [possible values: off, summary, full]",
  "      --report-out <REPORT_OUT>    Write the report to a file instead of stderr",
  "  -v, --verbose...                 More log output (-v debug, -vv trace)",
  "  -q, --quiet                      Only log errors",
  "  -h, --help                       Print help",
  "  -V, --version                    Print version",
  ""]

/-- an option with a value -/
inductive Setting where
  | manifest
  | root
  | policy
  | serviceTable
  | makeFlags
  | report
  | reportFile
deriving DecidableEq, Repr

/-- an option without a value -/
inductive Switch where
  | json
  | toOutput
  | verbose
  | quiet
  | help
  | version
deriving DecidableEq, Repr

/-- the option of this name -/
def Setting.ofName? : String → Option Setting
  | "manifest" => some .manifest
  | "root" => some .root
  | "flag-policy" => some .policy
  | "rust-out" => some .serviceTable
  | "make-out" => some .makeFlags
  | "report" => some .report
  | "report-out" => some .reportFile
  | _ => none

/-- the option of this name -/
def Switch.ofName? : String → Option Switch
  | "json" => some .json
  | "stdout" => some .toOutput
  | "verbose" => some .verbose
  | "quiet" => some .quiet
  | "help" => some .help
  | "version" => some .version
  | _ => none

/-- the option of this letter -/
def Switch.ofLetter? : Char → Option Switch
  | 'v' => some .verbose
  | 'q' => some .quiet
  | 'h' => some .help
  | 'V' => some .version
  | _ => none

/-- an argument whose value is still to be looked at -/
inductive Waiting where
  /-- an option, and its value if it is there already -/
  | setting (s : Setting) (value : Option String)
  /-- an argument that is no option -/
  | rootsFile (path : String)
deriving DecidableEq, Repr

/-- a command line that was read in part -/
structure Reading where
  /-- what was asked for so far -/
  options : Options := {}
  /-- the last argument, if its value is still to be looked at -/
  waiting : Option Waiting := none
  /-- whether no more options follow -/
  trailing : Bool := false

/-! ## values -/

/-- a path; it is not empty -/
def path (value : String) : Except Stop String :=
  if value.isEmpty then .error (.usage .value) else .ok value

/-- the choice of this name -/
def choice {α : Type} (label : α → String) (choices : List α) (value : String) : Except Stop α :=
  match choices.find? fun c => label c == value with
  | some c => .ok c
  | none => .error (.usage .value)

/-- something that is given only once -/
def once {α : Type} (old : Option α) (new : Except Stop α) : Except Stop (Option α) :=
  if old.isSome then .error (.usage .conflict) else new.map some

/-- the options with one more -/
def set (o : Options) (s : Setting) (value : String) : Except Stop Options :=
  match s with
  | .manifest => return { o with manifest := ← once o.manifest (path value) }
  | .root => return { o with roots := o.roots ++ [value] }
  | .policy =>
    return { o with policy := ← once o.policy (choice FlagPolicy.label [.local, .transitive] value) }
  | .serviceTable => return { o with serviceTable := ← once o.serviceTable (path value) }
  | .makeFlags => return { o with makeFlags := ← once o.makeFlags (path value) }
  | .report =>
    return { o with
      reportMode := ← once o.reportMode (choice ReportMode.label [.off, .summary, .full] value) }
  | .reportFile => return { o with reportFile := ← once o.reportFile (path value) }

/-- the largest count of an option -/
def countLimit : Nat := 255

/-- a switch that is not on yet -/
def switchOn (on : Bool) : Except Stop Bool := if on then .error (.usage .conflict) else .ok true

/-- the options with one more -/
def turnOn (o : Options) (s : Switch) : Except Stop Options :=
  match s with
  | .json => return { o with json := ← switchOn o.json }
  | .toOutput => return { o with toOutput := ← switchOn o.toOutput }
  | .verbose => return { o with verbose := min (o.verbose + 1) countLimit }
  | .quiet => return { o with quiet := ← switchOn o.quiet }
  | .help => throw .help
  | .version => throw .version

namespace Reading

/-- looks at the value of the last argument -/
def settle (r : Reading) : Except Stop Reading :=
  match r.waiting with
  | none => return r
  | some (.setting s (some value)) => return { r with options := ← r.options.set s value, waiting := none }
  | some (.setting _ none) => throw (.usage .value)
  | some (.rootsFile value) =>
    return { r with options := { r.options with rootsFile := some (← path value) }, waiting := none }

/-! ## arguments -/

def hasRootsFile (r : Reading) : Bool :=
  match r.waiting with
  | some (.rootsFile _) => true
  | _ => r.options.rootsFile.isSome

/-- an argument that is no option -/
def positional (r : Reading) (arg : String) : Except Stop Reading :=
  if r.hasRootsFile then throw (.usage .unknown)
  else return { ← r.settle with waiting := some (.rootsFile arg) }

def switch (r : Reading) (s : Switch) : Except Stop Reading := do
  let r ← r.settle
  return { r with options := ← r.options.turnOn s }

/-- an option with a long name, and its value if there is one behind a `=` -/
def long (r : Reading) (name : String) (value : Option String) : Except Stop Reading :=
  match Switch.ofName? name, Setting.ofName? name, value with
  | some s, _, none => r.switch s
  | some _, _, some _ => throw (.usage .surplus)
  | none, some s, some value => do
    let r ← r.settle
    return { r with options := ← r.options.set s value }
  | none, some s, none => return { ← r.settle with waiting := some (.setting s none) }
  | none, none, _ => throw (.usage .unknown)

def short (r : Reading) (letter : Char) : Except Stop Reading :=
  match Switch.ofLetter? letter with
  | some s => r.switch s
  | none => throw (.usage .unknown)

/-- an argument that does not look like an option: the value of the option before it, if that option
has none yet -/
def plain (r : Reading) (arg : String) : Except Stop Reading :=
  match r.waiting with
  | some (.setting s none) => return { r with waiting := some (.setting s (some arg)) }
  | _ => r.positional arg

/-- the name of a long option, and its value behind a `=` -/
def splitName (cs : List Char) : String × Option String :=
  let name := String.ofList (cs.takeWhile (· ≠ '='))
  match cs.dropWhile (· ≠ '=') with
  | [] => (name, none)
  | _ :: value => (name, some (String.ofList value))

/-- one argument more -/
def argument (r : Reading) (arg : String) : Except Stop Reading :=
  if r.trailing then r.positional arg
  else
    match arg.toList with
    | ['-', '-'] => return { r with trailing := true }
    | '-' :: '-' :: cs => r.long (splitName cs).1 (splitName cs).2
    | '-' :: c :: cs => (c :: cs).foldlM short r
    | _ => r.plain arg

end Reading

/-- what a command line asks for -/
def ofArguments (args : List String) : Except Stop Options := do
  let { options := o, .. } ← (← args.foldlM Reading.argument {}).settle
  if o.quiet && o.verbose != 0 then throw (.usage .conflict)
  return o

/-- how much is told about decisions -/
def report (o : Options) : ReportMode := o.reportMode.getD .off

/-- how much is logged -/
def level (o : Options) : Level := Level.ofOptions o.verbose o.quiet

end Options

end ServiceBoundary
