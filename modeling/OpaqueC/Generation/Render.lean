import OpaqueC.Catalog.Basic
import OpaqueC.Emission.HeaderFile
import OpaqueC.Emission.SourceFile

/-!
# Rendered files

The files of a class as text, before anything is written.

## Main definitions

* `RenderedFile`: a path and a content, which is partial if the class has a defect;
* `RunError`: what stops a whole run;
* `renderHeader`, `renderSource`: the two files of a class;
* `preview`: the files of all selected classes.
-/

namespace OpaqueC

/-- A file as text. -/
structure RenderedFile where
  /-- The path below the output directory. -/
  path : String
  /-- The text. -/
  content : String
  /-- Why the text is only the beginning of the file, if it is. -/
  error? : Option EmitError
  deriving DecidableEq, Repr

/-- What stops a whole run. -/
inductive RunError
  /-- The selection names an unknown class. -/
  | selection (defect : Defect)
  /-- A file of a class includes too many headers. -/
  | includeLimit (className : String) (refusal : LimitReached)
  deriving DecidableEq, Repr

namespace RunError

/-- The text of an error, without its cause. -/
def message : RunError → String
  | selection d => d.message
  | includeLimit c _ => s!"generation aborted at class '{c}'"

/-- The text of an error and of its cause. -/
def chain : RunError → List String
  | e@(selection _) => [e.message]
  | e@(includeLimit _ r) => [e.message, r.message]

end RunError

/-- The classes to generate, in the order of the catalog. -/
def Catalog.selected (k : Catalog) (o : Options) : Except RunError (List Class) :=
  match o.classes? with
  | none => .ok k.classes
  | some names =>
    match k.selectionDefect? names with
    | some defect => .error (.selection defect)
    | none => .ok (k.classes.filter fun c => names.any (· == c.name))

/-- A new file written by steps. A refused header stops the run; a defect leaves a partial
file. -/
def render (path className : String) (o : Options) (steps : List Step) :
    Except RunError RenderedFile :=
  let (d, error?) := emit className steps (Draft.start o.includeLimit?)
  match error?.bind EmitError.refusal? with
  | some refusal => .error (.includeLimit className refusal)
  | none => .ok { path, content := d.text, error? }

/-- The header of a class. -/
def renderHeader (o : Options) (c : Class) : Except RunError RenderedFile :=
  render c.headerFile c.name o (HeaderFile.steps o c)

/-- The source of a class. -/
def renderSource (o : Options) (c : Class) : Except RunError RenderedFile :=
  render c.sourceFile c.name o (SourceFile.steps o c)

/-- Both files of a class, the header first. -/
def renderClass (o : Options) (c : Class) : Except RunError (List RenderedFile) := do
  return [← renderHeader o c, ← renderSource o c]

/-- The files of all selected classes. -/
def preview (k : Catalog) (o : Options) : Except RunError (List RenderedFile) := do
  let files ← (← k.selected o).mapM (renderClass o)
  return files.flatten

end OpaqueC
