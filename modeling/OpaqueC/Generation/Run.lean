import OpaqueC.FileTree.Disk
import OpaqueC.Generation.Render

/-!
# Generation runs

A run writes the two files of every selected class into a directory. A class whose header
cannot be written is skipped, and the run goes on with the next class. A file of a class
with a defect is written as far as it goes. One header too many stops the run.

## Main definitions

* `FileStatus`: what happened to one file;
* `ClassReport`: what happened to the files of one class;
* `generate`: a run over all selected classes.
-/

namespace OpaqueC

/-- Why a file was not written. -/
inductive SkipReason
  /-- The file could not be opened. -/
  | unwritable (path : String) (cause : FileError)
  /-- The header of the class was not written. -/
  | headerMissing (headerFile : String)
  deriving DecidableEq, Repr

/-- The text for a file that could not be opened, without the cause. -/
def openFailure (path : String) : String :=
  s!"failed to open '{path}'"

/-- The text of a reason. -/
def SkipReason.message : SkipReason → String
  | unwritable path cause => openFailure path ++ ": " ++ cause.message
  | headerMissing headerFile => s!"{headerFile} was not written"

/-- What happened to one file. -/
inductive FileStatus
  /-- Written completely. -/
  | written
  /-- Written up to a failure. -/
  | incomplete (error : EmitError)
  /-- Not written. -/
  | skipped (reason : SkipReason)
  deriving DecidableEq, Repr

/-- What happened to the files of one class. -/
structure ClassReport where
  /-- The name of the class. -/
  className : String
  /-- The name of its header. -/
  headerFile : String
  /-- The name of its source. -/
  sourceFile : String
  /-- What happened to the header. -/
  header : FileStatus
  /-- What happened to the source. -/
  source : FileStatus
  deriving DecidableEq, Repr

namespace ClassReport

/-- Whether both files were written completely. -/
def isSuccess (r : ClassReport) : Bool :=
  r.header = .written && r.source = .written

/-- Both files with their status, the header first. -/
def files (r : ClassReport) : List (String × FileStatus) :=
  [(r.headerFile, r.header), (r.sourceFile, r.source)]

end ClassReport

/-- The number of classes whose files were not both written completely. -/
def failureCount (reports : List ClassReport) : Nat :=
  reports.countP fun r => !r.isSuccess

variable {m : Type → Type} [Monad m] [Disk m]

/-- Write a rendered file below a directory. -/
def store (dir : String) (file : RenderedFile) : m FileStatus := do
  let path := Path.join dir file.path
  match ← Disk.write path file.content with
  | .error cause => return .skipped (.unwritable path cause)
  | .ok () =>
    match file.error? with
    | some error => return .incomplete error
    | none => return .written

/-- Write the source of a class whose header has the given status. -/
def generateSource (o : Options) (dir : String) (c : Class) (header : FileStatus) :
    m (Except RunError FileStatus) := do
  match header with
  | .skipped _ => return .ok (.skipped (.headerMissing c.headerFile))
  | _ =>
    match renderSource o c with
    | .error e => return .error e
    | .ok file => return .ok (← store dir file)

/-- Write the files of one class. -/
def generateClass (o : Options) (dir : String) (c : Class) :
    m (Except RunError ClassReport) := do
  match renderHeader o c with
  | .error e => return .error e
  | .ok file =>
    let header ← store dir file
    match ← generateSource o dir c header with
    | .error e => return .error e
    | .ok source =>
      return .ok { className := c.name, headerFile := c.headerFile
                   sourceFile := c.sourceFile, header, source }

/-- Write the files of classes in order, up to the first error that stops the run. -/
def generateClasses (o : Options) (dir : String) :
    List Class → m (Except RunError (List ClassReport))
  | [] => return .ok []
  | c :: cs => do
    match ← generateClass o dir c with
    | .error e => return .error e
    | .ok report =>
      match ← generateClasses o dir cs with
      | .error e => return .error e
      | .ok reports => return .ok (report :: reports)

/-- Write the files of all selected classes. -/
def generate (k : Catalog) (o : Options) (dir : String) :
    m (Except RunError (List ClassReport)) := do
  match k.selected o with
  | .error e => return .error e
  | .ok classes => generateClasses o dir classes

end OpaqueC
