/-!
# Generation options

## Main definitions

* `notice`: the banner text of files generated with the default options;
* `Options`: what can be chosen for all generated files.
-/

namespace OpaqueC

/-- The warning in the banner of a generated file. -/
def notice : String :=
  "Do not edit this file, it is automatically generated."

/-- What can be chosen for all generated files. -/
structure Options where
  /-- The macro in front of every exported prototype. Nothing stands there if it is empty. -/
  exportMacro : String := "EXPORT_SPEC"
  /-- The header that defines the export macro, included by every generated header. -/
  globalHeader? : Option String := some "UpnpGlobal.h"
  /-- The build configuration, included first by every generated source. -/
  configHeader? : Option String := some "config.h"
  /-- The text under the title of the file banner. -/
  banner : String := notice
  /-- The classes to generate. All of them, if there is no list. -/
  classes? : Option (List String) := none
  /-- The greatest number of headers one file may include. -/
  includeLimit? : Option Nat := none
  deriving DecidableEq, Repr

end OpaqueC
