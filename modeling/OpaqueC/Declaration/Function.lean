import OpaqueC.Declaration.Signature
import OpaqueC.Fragment.Basic

/-!
# Functions

A function appears twice: as a documented, exported prototype and as a definition.

## Main definitions

* `Signature.prototype`: the fragments of a prototype;
* `FunctionDef`: a signature and a body, and `FunctionDef.fragments`.
-/

namespace OpaqueC

/-- The prototype of a function after its documentation. The export macro stands in front
unless it is empty. -/
def Signature.prototype (s : Signature) (exportMacro docText : String) : List Fragment :=
  let head := if exportMacro.isEmpty then "" else exportMacro ++ " "
  [.doc docText, .line (head ++ s.render ++ ";")]

/-- A function with its body. -/
structure FunctionDef where
  /-- The head of the function. -/
  signature : Signature
  /-- The statements. -/
  body : List Fragment
  deriving Repr

namespace FunctionDef

/-- The name of the function. -/
def name (f : FunctionDef) : String :=
  f.signature.name

/-- The definition: the signature on a line of its own, then the body in braces. -/
def fragments (f : FunctionDef) : List Fragment :=
  [.line f.signature.render, .block "\x7b" f.body (some "\x7d")]

/-- The prototype, documented with the name of the function. -/
def prototype (f : FunctionDef) (exportMacro : String) : List Fragment :=
  f.signature.prototype exportMacro f.name

end FunctionDef

end OpaqueC
