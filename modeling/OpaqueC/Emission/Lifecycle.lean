import OpaqueC.Declaration.Function
import OpaqueC.Naming

/-!
# Lifecycle functions

Every class has a constructor, a destructor, a copy constructor and an assignment operator.
Their signatures are used by the header and by the source.

## Main definitions

* `ClassRole.signature`: the signature of a lifecycle function;
* `ClassRole.title`: its documentation in the header.
-/

namespace OpaqueC

namespace ClassRole

/-- The result type of a lifecycle function. -/
def result (className : String) : ClassRole → String
  | constructor | duplicate => classPointer className
  | destructor => "void"
  | assign => "int"

/-- The parameters of a lifecycle function. -/
def parameters (className : String) : ClassRole → List Parameter
  | constructor => []
  | destructor => [⟨classPointer className, "p"⟩]
  | duplicate => [⟨constClassPointer className, "q"⟩]
  | assign => [⟨classPointer className, "p"⟩, ⟨constClassPointer className, "q"⟩]

/-- The signature of a lifecycle function. -/
def signature (className : String) (r : ClassRole) : Signature :=
  { result := r.result className, name := r.functionName className
    parameters := r.parameters className }

/-- The documentation of a lifecycle function. -/
def title : ClassRole → String
  | constructor => "Constructor"
  | destructor => "Destructor"
  | duplicate => "Copy Constructor"
  | assign => "Assignment operator"

end ClassRole

end OpaqueC
