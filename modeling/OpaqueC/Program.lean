import OpaqueC.Catalog.Builtin
import OpaqueC.CommandLine
import OpaqueC.Configuration
import OpaqueC.Report.Check
import OpaqueC.Report.Generation
import OpaqueC.Report.Listing

/-!
# The program

What the program does for a list of arguments, on any disk: the output, the messages and
the exit status. Misuse ends with status 2, any other failure with status 1.

## Main definitions

* `Result`: what a run of the program leaves behind;
* `Command.perform`: the effect of a command on the built-in catalog;
* `runProgram`: the effect of arguments.
-/

namespace OpaqueC

/-- What a run of the program leaves behind, apart from files. -/
structure Result where
  /-- The exit status. -/
  status : Nat
  /-- The output. -/
  output : String := ""
  /-- The messages. -/
  messages : String := ""
  deriving DecidableEq, Repr

namespace Result

/-- A failure with the texts that lead to its root. -/
def failure (chain : List String) : Result :=
  { status := 1, messages := "error: " ++ ": ".intercalate chain ++ "\n" }

/-- A report, shown as a success or as a failure. -/
def report (items : List ReportItem) (isSuccess : Bool) : Result :=
  { status := if isSuccess then 0 else 1, output := outputText items
    messages := messageText items }

/-- The version of the program. -/
def version : Result :=
  { status := 0, output := "adtgen 0.3.0\n" }

/-- How the program is used. -/
def usage : String :=
  "Generate opaque C data types from the class catalog\n\n" ++
  "Usage: adtgen [-v] generate [-c CONFIG] [-o OUTPUT] [--class NAME]... [--dry-run]\n" ++
  "       adtgen [-v] check [-c CONFIG]\n" ++
  "       adtgen [-v] list [--class NAME]...\n"

/-- Help. -/
def help : Result :=
  { status := 0, output := usage }

/-- The answer to arguments that make no sense. -/
def misuse : Result :=
  { status := 2, messages := usage }

end Result

/-- Whether a configuration file exists, judged by an attempt to read it. -/
def existing (path : String) : Except FileError ByteArray → Option String
  | .ok _ => some path
  | .error _ => none

namespace Command

variable {m : Type → Type} [Monad m] [Disk m]

/-- Generate classes of the built-in catalog. -/
def performGenerate (configPath : String) (output? : Option String) (classes : List String)
    (dryRun : Bool) : m Result := do
  match ← Configuration.load configPath with
  | .error e => return .failure [e.message]
  | .ok config =>
    let options := config.optionsFor classes
    match ← runGeneration .builtin options (config.outputDirectory output?) dryRun with
    | .error abort => return .failure abort.chain
    | .ok report => return .report report.items report.isSuccess

/-- Check the built-in catalog and the configuration. -/
def performCheck (configPath : String) : m Result := do
  let content := (← Disk.read configPath)
  match Configuration.ofContent configPath content with
  | .error e => return .failure [e.message]
  | .ok config =>
    match Catalog.selected .builtin config.options with
    | .error e => return .failure e.chain
    | .ok _ =>
      let report := CheckReport.ofCatalog .builtin (existing configPath content)
      return .report report.items report.isValid

/-- List classes of the built-in catalog, all of them if none is named. -/
def performList (classes : List String) : Result :=
  let chosen? := if classes.isEmpty then none else some classes
  match Catalog.selected .builtin { classes? := chosen? } with
  | .error e => .failure e.chain
  | .ok chosen => .report (listingItems (Catalog.listing ⟨chosen⟩)) true

/-- Perform a command. -/
def perform : Command → m Result
  | generate configPath? output? classes dryRun =>
    performGenerate (configPath?.getD Configuration.defaultPath) output? classes dryRun
  | check configPath? => performCheck (configPath?.getD Configuration.defaultPath)
  | list classes => return performList classes

end Command

/-- Run the program with arguments. -/
def runProgram {m : Type → Type} [Monad m] [Disk m] (arguments : List String) : m Result :=
  match Invocation.ofArguments arguments with
  | .run command => command.perform
  | .version => return .version
  | .help => return .help
  | .misuse => return .misuse

end OpaqueC
