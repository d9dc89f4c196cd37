import OpaqueC.Emission.Basic
import OpaqueC.Emission.Lifecycle
import OpaqueC.Emission.Preamble
import OpaqueC.MemberCode.Basic
import OpaqueC.Options

/-!
# The header of a class

The header declares the opaque type and the prototypes of all functions, inside an include
guard and with C linkage for C++.

## Main definitions

* `HeaderFile.preamble`: the steps before the class is checked;
* `HeaderFile.memberIncludes`: the includes that the members need;
* `HeaderFile.declarations`: everything after the includes;
* `HeaderFile.steps`: the whole file.
-/

namespace OpaqueC

namespace HeaderFile

/-- The header that every generated header includes. -/
def standardHeader : String := "<stdlib.h>"

/-- The include of the header that defines the export macro. -/
def globalInclude (o : Options) : List Step :=
  match o.globalHeader? with
  | none => []
  | some header =>
    let purpose := if o.exportMacro.isEmpty then "" else " /* for " ++ o.exportMacro ++ " */"
    [.require header [.directive (includeDirective header ++ purpose), .blank]]

/-- Include guard, banner and the includes that do not depend on the members. -/
def preamble (o : Options) (className : String) : List Step :=
  [.write ([.directive ("#ifndef " ++ guardMacro className),
      .directive ("#define " ++ guardMacro className), .blank] ++
      banner .header className o.banner),
    .require standardHeader
      [.directive (includeDirective standardHeader ++ " /* for size_t */"), .blank]] ++
    globalInclude o

/-- The guard of an include: the one that all members needing the header have in common,
if they have one. -/
def sharedGuard? (c : Class) (header : String) : Option String :=
  let guards := (c.members.filter fun m => m.requiredHeader? == some header).map
    fun m => m.guard?.map Text.trim
  match guards with
  -- One member without a guard is enough to need the header always.
  | some guard :: rest => if rest.all (· == some guard) then some guard else none
  | _ => none

/-- The include of a header that a member needs. -/
def memberInclude (c : Class) (header : String) : Step :=
  .require header
    (Fragment.guarded (sharedGuard? c header) [.directive (includeDirective header)])

/-- The headers that the members need, in order and with repetitions. -/
def memberHeaders (c : Class) : List String :=
  c.members.filterMap (·.requiredHeader?)

/-- The headers that are included before those of the members. -/
def preambleHeaders (o : Options) : List String :=
  standardHeader :: o.globalHeader?.toList

/-- The includes that the members need, and a blank line if there is a new one. -/
def memberIncludes (o : Options) (c : Class) : List Step :=
  (memberHeaders c).map (memberInclude c) ++
    if (memberHeaders c).all (preambleHeaders o).contains then [] else [.write [.blank]]

/-- The beginning of C linkage. -/
def linkageOpening : List Fragment :=
  [.directive "#ifdef __cplusplus", .line "extern \"C\" \x7b",
    .directive "#endif /* __cplusplus */", .blank]

/-- The end of C linkage. -/
def linkageClosing : List Fragment :=
  [.directive "#ifdef __cplusplus", .line "\x7d",
    .directive "#endif /* __cplusplus */", .blank]

/-- The declaration of the opaque type. -/
def typeDeclaration (className : String) : List Fragment :=
  [.line "/*!", .line (" * " ++ className), .line " */",
    .line ("typedef struct " ++ structTag className ++ " " ++ className ++ ";"), .blank]

/-- The prototypes of the lifecycle functions. -/
def lifecyclePrototypes (exportMacro className : String) : List Fragment :=
  ClassRole.all.flatMap fun r => (r.signature className).prototype exportMacro r.title

/-- Everything after the includes. -/
def declarations (o : Options) (className : String) (members : List MemberCode) :
    List Fragment :=
  linkageOpening ++ typeDeclaration className ++
    lifecyclePrototypes o.exportMacro className ++ [.blank] ++
    members.flatMap (fun m => m.prototypes o.exportMacro ++ [.blank]) ++
    linkageClosing ++ [.directive ("#endif /* " ++ guardMacro className ++ " */")]

/-- The header of a class. A class with a defect has its preamble only. -/
def steps (o : Options) (c : Class) : List Step :=
  preamble o c.name ++
    match c.memberCodes with
    | .error defect => [.reject defect]
    | .ok members => memberIncludes o c ++ [.write (declarations o c.name members)]

end HeaderFile

end OpaqueC
