import OpaqueC.Declaration.Function
import OpaqueC.Naming

/-!
# Slots

What the generated code of a member is made from: the names of class and member, the C type
and the initial value.

## Main definitions

* `Slot`: the ingredients;
* `Slot.field`: the member of the object `p`;
* `Accessor`: a role with its types and body, and `Slot.define`, the function it becomes.
-/

namespace OpaqueC

/-- The ingredients of the code of one member. -/
structure Slot where
  /-- The name of the class. -/
  className : String
  /-- The name of the member. -/
  memberName : String
  /-- The C type of the member. -/
  type : String
  /-- The declared initial value. -/
  initial? : Option String
  deriving DecidableEq, Repr

/-- A function that works on one member. -/
structure Accessor where
  /-- What the function is for. -/
  role : AccessorRole
  /-- The text of the result type. -/
  result : String
  /-- The parameters, in order. -/
  parameters : List Parameter
  /-- The statements. -/
  body : List Fragment
  deriving Repr

namespace Slot

/-- The member in the object that `p` points to. -/
def field (s : Slot) : String :=
  "p->" ++ fieldName s.memberName

/-- The object to work on, as a parameter. -/
def self (s : Slot) : Parameter :=
  { type := classPointer s.className, name := "p" }

/-- The object to read, as a parameter. -/
def constSelf (s : Slot) : Parameter :=
  { type := constClassPointer s.className, name := "p" }

/-- The type of a pointer to the member. -/
def pointer (s : Slot) : String :=
  classPointer s.type

/-- The type of a pointer to the member for reading. -/
def constPointer (s : Slot) : String :=
  constClassPointer s.type

/-- The name of an accessor of the member. -/
def accessorName (s : Slot) (role : AccessorRole) : String :=
  role.functionName s.className s.memberName

/-- The function that an accessor of the member becomes. -/
def define (s : Slot) (a : Accessor) : FunctionDef :=
  { signature := { result := a.result, name := s.accessorName a.role, parameters := a.parameters }
    body := a.body }

@[simp]
theorem name_define (s : Slot) (a : Accessor) :
    (s.define a).name = s.accessorName a.role := rfl

end Slot

end OpaqueC
