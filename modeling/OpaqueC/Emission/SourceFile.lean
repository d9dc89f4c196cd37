import OpaqueC.Declaration.Struct
import OpaqueC.Emission.Basic
import OpaqueC.Emission.Lifecycle
import OpaqueC.Emission.Preamble
import OpaqueC.MemberCode.Basic
import OpaqueC.Options

/-!
# The source of a class

The source defines the struct, the lifecycle functions and the accessors of all members.
Members are built and copied in their order and released in the reverse order.

## Main definitions

* `SourceFile.preamble`: the steps before the class is checked;
* `SourceFile.constructor`, `SourceFile.destructor`, `SourceFile.assignment`,
  `SourceFile.duplicate`: the lifecycle functions;
* `SourceFile.steps`: the whole file.
-/

namespace OpaqueC.SourceFile

/-- The include of the build configuration. -/
def configInclude (o : Options) : List Step :=
  match o.configHeader? with
  | none => []
  | some header => [.require header [.directive (includeDirective header), .blank]]

/-- The include of a library header with its purpose. -/
def libraryInclude (header purpose : String) : Step :=
  .require header [.directive (includeDirective header ++ " /* for " ++ purpose ++ " */")]

/-- Banner and includes. -/
def preamble (o : Options) (c : Class) : List Step :=
  [.write (banner .source c.name o.banner)] ++ configInclude o ++
    [libraryInclude "<stdlib.h>" "calloc(), free()",
      libraryInclude "<string.h>" "memset()",
      .write [.blank],
      .require c.headerFile [.directive (includeDirective c.headerFile), .blank]]

/-- Makes an object with every member in its initial state. -/
def constructor (className : String) (members : List MemberCode) : FunctionDef where
  signature := ClassRole.constructor.signature className
  body :=
    let struct := "struct " ++ structTag className
    [.line (struct ++ " *p = calloc(1, sizeof (" ++ struct ++ "));"), .blank,
      .line "if (!p) return 0;", .blank] ++
      members.flatMap MemberCode.construct ++
      [.blank, .line ("return (" ++ className ++ " *)p;")]

/-- Releases the members, the last one first, and then the object. -/
def destructor (className : String) (members : List MemberCode) : FunctionDef where
  signature := ClassRole.destructor.signature className
  body :=
    [.line "if (!p) return;", .blank] ++ members.reverse.flatMap MemberCode.destruct ++
      [.blank, .line "free(p);"]

/-- Copies every member from `q` to `p`. -/
def assignment (className : String) (members : List MemberCode) : FunctionDef where
  signature := ClassRole.assign.signature className
  body :=
    [.line "int ok = 1;", .blank,
      .block "if (p != q) \x7b" (members.flatMap MemberCode.assign) (some "\x7d"),
      .blank, .line "return ok;"]

/-- Makes an object and copies `q` to it. -/
def duplicate (className : String) : FunctionDef where
  signature := ClassRole.duplicate.signature className
  body :=
    [.line (className ++ " *p = " ++ ClassRole.constructor.functionName className ++ "();"),
      .blank, .line "if (!p) return 0;", .blank,
      .block ("if (!" ++ ClassRole.assign.functionName className ++ "(p, q)) \x7b")
        [.line (ClassRole.destructor.functionName className ++ "(p);"), .line "return 0;"]
        (some "\x7d"),
      .blank, .line "return p;"]

/-- The lifecycle functions in the order of the source. -/
def lifecycle (className : String) (members : List MemberCode) : List FunctionDef :=
  [constructor className members, destructor className members,
    assignment className members, duplicate className]

/-- Everything after the includes. -/
def definitions (className : String) (members : List MemberCode) : List Fragment :=
  structFragments (structTag className) (members.flatMap MemberCode.field) ++
    (lifecycle className members).flatMap (fun f => .blank :: f.fragments) ++
    members.flatMap (fun m => .blank :: m.definitions)

/-- The source of a class. A class with a defect has its preamble only. -/
def steps (o : Options) (c : Class) : List Step :=
  preamble o c ++
    match c.memberCodes with
    | .error defect => [.reject defect]
    | .ok members => [.write (definitions c.name members)]

end OpaqueC.SourceFile
