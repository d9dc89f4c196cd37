import OpaqueC.Text.Line

/-!
# Paths

A path is a text whose names are separated by slashes. It is kept as it was given, since
messages show it unchanged; what it denotes is read off its names.

## Main definitions

* `Path.join`: a path below a base;
* `Path.names`: the names of a path, without empty ones;
* `Path.parents`: the directories that a path passes through.
-/

namespace OpaqueC.Path

/-- Whether a path starts at the root. -/
def isAbsolute (path : String) : Bool :=
  path.toList.head? == some '/'

/-- Whether a path ends in a slash, and so can only denote a directory. -/
def endsInSlash (path : String) : Bool :=
  path.toList.getLast? == some '/'

/-- A path below a base. An absolute path replaces the base, and one slash separates the
two unless the base is empty or ends in one. -/
def join (base path : String) : String :=
  if isAbsolute path || base.isEmpty then path
  else if endsInSlash base then base ++ path
  else base ++ "/" ++ path

/-- The names of a path. Repeated slashes count as one. -/
def names (path : String) : List String :=
  ((Text.splitAt '/' path.toList).filter fun piece => !piece.isEmpty).map String.ofList

/-- The names that matter for the parents of a path: a dot means something only at the
beginning of a relative path. -/
def significantNames (path : String) : List String :=
  match names path with
  | [] => []
  | first :: rest =>
    let kept := rest.filter (· != ".")
    if first == "." && isAbsolute path then kept else first :: kept

/-- The directories that a path passes through, the innermost first. -/
def parents (path : String) : List String :=
  let significant := significantNames path
  let root := if isAbsolute path then "/" else ""
  (List.range (significant.length - 1)).reverse.map fun n =>
    root ++ "/".intercalate (significant.take (n + 1))

end OpaqueC.Path
