import OpaqueC.Generation.Run
import OpaqueC.Report.Item

/-!
# Generation reports

A run writes files, or shows in a dry run what it would write. Either way the defects of the
selected classes are reported first, as warnings.

## Main definitions

* `GenerationReport`: warnings and what was written or rendered;
* `Abort`: why there is no report;
* `runGeneration`: a run with its report;
* `GenerationReport.items`.
-/

namespace OpaqueC

/-- What a run produced. -/
inductive GenerationOutcome
  /-- Files written to a directory. -/
  | written (dir : String) (reports : List ClassReport)
  /-- Files rendered in a dry run. -/
  | preview (files : List RenderedFile)
  deriving DecidableEq, Repr

/-- The result of a run. -/
structure GenerationReport where
  /-- The text of every defect of the selected classes. -/
  warnings : List String
  /-- What the run produced. -/
  outcome : GenerationOutcome
  deriving DecidableEq, Repr

/-- Why a run ended without a report. -/
inductive Abort
  /-- The selection names an unknown class. -/
  | selection (cause : RunError)
  /-- The run was stopped. -/
  | run (cause : RunError)
  /-- The output directory cannot be created. -/
  | outputDirectory (dir : String) (cause : FileError)
  deriving DecidableEq, Repr

/-- The texts of an abort, from the most general to its root. -/
def Abort.chain : Abort → List String
  | selection cause => "invalid class selection" :: cause.chain
  | run cause => "generation aborted" :: cause.chain
  | outputDirectory dir cause =>
    [s!"failed to create output directory '{dir}'", cause.message]

/-- The text of every defect of the given classes. -/
def defectTexts (classes : List Class) : List String :=
  (classes.flatMap Class.defects).map Defect.message

/-- Generate the selected classes into a directory, which is created if need be. A dry run
leaves the disk alone. -/
def runGeneration {m : Type → Type} [Monad m] [Disk m] (k : Catalog) (o : Options)
    (dir : String) (dryRun : Bool) : m (Except Abort GenerationReport) := do
  match k.selected o with
  | .error e => return .error (.selection e)
  | .ok classes =>
    let warnings := defectTexts classes
    if dryRun then
      match preview k o with
      | .error e => return .error (.run e)
      | .ok files => return .ok { warnings, outcome := .preview files }
    else
      match ← Disk.createDirectories dir with
      | .error e => return .error (.outputDirectory dir e)
      | .ok () =>
        match ← generate k o dir with
        | .error e => return .error (.run e)
        | .ok reports => return .ok { warnings, outcome := .written dir reports }

/-- The outcome of writing a file, in words. -/
def FileStatus.describe : FileStatus → String
  | written => "done!"
  | incomplete error => s!"failed: {error.chain}"
  | skipped reason => s!"skipped: {reason.message}"

/-- The items of a run that wrote files. -/
def writtenItems (dir : String) (reports : List ClassReport) : List ReportItem :=
  (reports.flatMap ClassReport.files).map
      (fun (path, status) => .progress s!"Writing {path}" status.describe) ++
    [.newline, .keyValue "Output" dir,
      .preformatted s!"{reports.length} classes, {failureCount reports} failed"]

/-- The items of one rendered file. -/
def RenderedFile.items (f : RenderedFile) : List ReportItem :=
  [.divider f.path, .preformatted f.content] ++
    f.error?.toList.map fun error => .error s!"{f.path} is incomplete: {error.chain}"

/-- The items of a dry run. -/
def previewItems (files : List RenderedFile) : List ReportItem :=
  files.flatMap RenderedFile.items ++
    [.divider "Summary", .preformatted s!"{files.length} files would be generated"]

namespace GenerationReport

/-- Whether every selected class was generated completely. -/
def isSuccess (r : GenerationReport) : Bool :=
  match r.outcome with
  | .written _ reports => failureCount reports == 0
  | .preview files => files.all fun f => f.error?.isNone

/-- Whether the report is about a dry run. -/
def isPreview (r : GenerationReport) : Bool :=
  match r.outcome with
  | .written .. => false
  | .preview _ => true

/-- The items of a report. -/
def items (r : GenerationReport) : List ReportItem :=
  r.warnings.map .warning ++
    match r.outcome with
    | .written dir reports => writtenItems dir reports
    | .preview files => previewItems files

end GenerationReport

end OpaqueC
