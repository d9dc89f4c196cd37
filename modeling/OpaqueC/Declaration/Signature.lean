import OpaqueC.Declaration.Declarator

/-!
# Function signatures

## Main definitions

* `Parameter`: a type and a name;
* `Signature`: the result type, the name and the parameters of a function;
* `Signature.render`: the signature as C writes it.
-/

namespace OpaqueC

/-- A parameter of a function. -/
structure Parameter where
  /-- The text of the type. -/
  type : String
  /-- The name in the definition. -/
  name : String
  deriving DecidableEq, Repr

/-- The head of a function. -/
structure Signature where
  /-- The text of the result type. -/
  result : String
  /-- The name of the function. -/
  name : String
  /-- The parameters, in order. -/
  parameters : List Parameter := []
  deriving DecidableEq, Repr

namespace Signature

/-- The text between the parentheses. No parameters are written as `void`. -/
def parameterText (s : Signature) : String :=
  match s.parameters with
  | [] => "void"
  | ps => ", ".intercalate (ps.map fun p => declare p.type p.name)

/-- The signature as C writes it. -/
def render (s : Signature) : String :=
  declare s.result s.name ++ "(" ++ s.parameterText ++ ")"

end Signature

end OpaqueC
