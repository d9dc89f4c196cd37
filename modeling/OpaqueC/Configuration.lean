import OpaqueC.FileTree.Disk
import OpaqueC.Options
import OpaqueC.Settings.Document

/-!
# Configuration

A configuration file may set the output directory and the generation options. It need not
exist, but what it says must be known: an unknown key or a value of the wrong form makes it
unusable as a whole.

## Main definitions

* `Options.ofValue?`: options from a value;
* `Options.ofSetting?`: options from a value in a settings file;
* `Configuration.parse`: a configuration from the text of a file;
* `Configuration.load`: a configuration from a disk;
* `Configuration.outputDirectory`, `Configuration.optionsFor`: what the command line may
  override.
-/

namespace OpaqueC

open Settings (Table Value)

namespace Options

/-- The keys of the options, in their order. -/
def keys : List String :=
  ["export_macro", "global_header", "config_header", "banner", "classes", "include_limit"]

/-- The options with one of them set. -/
def set? (o : Options) (key : String) (value : Value) : Option Options :=
  match key with
  | "export_macro" => value.text?.map fun s => { o with exportMacro := s }
  | "global_header" => (value.optional? Value.text?).map fun s => { o with globalHeader? := s }
  | "config_header" => (value.optional? Value.text?).map fun s => { o with configHeader? := s }
  | "banner" => value.text?.map fun s => { o with banner := s }
  | "classes" => (value.optional? Value.texts?).map fun names => { o with classes? := names }
  | "include_limit" =>
    (value.optional? Value.natural?).map fun limit => { o with includeLimit? := limit }
  | _ => none

/-- The options that a settings value describes: a table with some of the keys, or a list
with the values of the first keys. What it does not set keeps its default. -/
def ofValue? : Value → Option Options
  | .table _ entries => entries.foldlM (fun o (key, value) => o.set? key value) {}
  | .list values =>
    if values.length ≤ keys.length then
      (keys.zip values).foldlM (fun o (key, value) => o.set? key value) {}
    else none
  | _ => none

/-- The options that a value in a settings file describes. A list may go on there after the
last key: what follows does not count. -/
def ofSetting? : Value → Option Options
  | .list values => ofValue? (.list (values.take keys.length))
  | value => ofValue? value

end Options

/-- What a configuration file sets. -/
structure Configuration where
  /-- The output directory. -/
  output? : Option String := none
  /-- The generation options. -/
  options : Options := {}
  deriving DecidableEq, Repr

/-- Why a configuration cannot be used. -/
inductive ConfigurationError
  /-- The file cannot be read. -/
  | unreadable (path : String) (cause : FileError)
  /-- The text is not that of a configuration. -/
  | malformed (path : String)
  deriving DecidableEq, Repr

namespace ConfigurationError

/-- The text of an error. -/
def message : ConfigurationError → String
  | unreadable path _ => s!"failed to read '{path}'"
  | malformed path => s!"failed to parse {path}"

/-- The stable code of an error, if it has one. -/
def code? : ConfigurationError → Option String
  | unreadable .. => none
  | malformed _ => some "adtgen::config_parse"

/-- Advice on how to mend an error. -/
def help? : ConfigurationError → Option String
  | unreadable .. => none
  | malformed _ => some "known keys are 'output' and the [generator] table"

end ConfigurationError

namespace Configuration

/-- The name of the configuration file that is read unless another is asked for. -/
def defaultPath : String := "adtgen.toml"

/-- The configuration with one key set. -/
def set? (c : Configuration) (key : String) (value : Value) : Option Configuration :=
  match key with
  | "output" => value.text?.map fun s => { c with output? := some s }
  | "generator" => (Options.ofSetting? value).map fun o => { c with options := o }
  | _ => none

/-- The configuration that a table describes. -/
def ofTable? (t : Table) : Option Configuration :=
  t.foldlM (fun c (key, value) => c.set? key value) {}

/-- The configuration in the text of the file at `path`. -/
def parse (path text : String) : Except ConfigurationError Configuration :=
  match (Settings.Document.read? text).bind ofTable? with
  | some c => .ok c
  | none => .error (.malformed path)

/-- What reading a configuration file means: a missing file is an empty one, and the
content of any other has to be text. -/
def ofContent (path : String) :
    Except FileError ByteArray → Except ConfigurationError Configuration
  | .error .notFound => .ok {}
  | .error cause => .error (.unreadable path cause)
  | .ok content =>
    match String.fromUTF8? content with
    | some text => parse path text
    | none => .error (.unreadable path (.other "stream did not contain valid UTF-8"))

/-- The configuration on a disk. -/
def load {m : Type → Type} [Monad m] [Disk m] (path : String) :
    m (Except ConfigurationError Configuration) := do
  return ofContent path (← Disk.read path)

/-- The output directory: the one asked for, else the configured one, else the working
directory. -/
def outputDirectory (c : Configuration) (flag? : Option String) : String :=
  (flag?.or c.output?).getD "."

/-- The generation options, with the classes asked for in the place of the configured ones
if there are any. -/
def optionsFor (c : Configuration) (classes : List String) : Options :=
  if classes.isEmpty then c.options else { c.options with classes? := some classes }

end Configuration

end OpaqueC
