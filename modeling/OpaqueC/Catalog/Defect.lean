import OpaqueC.Catalog.Kind

/-!
# Defects of a catalog

What can be wrong with a class, with one of its members, or with the choice of classes to
work on.

## Main definitions

* `NameRole`: what a rejected name was meant for;
* `Defect`: one violated rule, with the place where it is violated;
* `Defect.message`, `Defect.code`, `Defect.help?`: how a defect is reported.
-/

namespace OpaqueC

/-- What a name is used for. -/
inductive NameRole
  /-- The name of a class. -/
  | ofClass
  /-- The name of a member of the class `className`. -/
  | ofMember (className : String)
  deriving DecidableEq, Repr

/-- The role as an error message words it. -/
def NameRole.describe : NameRole → String
  | ofClass => "a class name"
  | ofMember className => s!"a member of '{className}'"

/-- A violated rule of the catalog. -/
inductive Defect
  /-- A member whose kind needs a type names none. -/
  | missingTypeName (className memberName : String) (kind : Kind)
  /-- A member repeats the name of an earlier member. -/
  | duplicateMember (className memberName : String)
  /-- A class repeats the name of an earlier class. -/
  | duplicateClass (className : String)
  /-- A class has no members. -/
  | emptyClass (className : String)
  /-- A name is not a C identifier. -/
  | invalidIdentifier (name : String) (role : NameRole)
  /-- The guard of a member is not the opening line of a preprocessor test. -/
  | invalidConditional (className memberName guard : String)
  /-- A selected name is not the name of a class. -/
  | unknownClass (name : String)
  deriving DecidableEq, Repr

namespace Defect

/-- The text of a defect. -/
def message : Defect → String
  | missingTypeName c m kind => s!"{kind.label} member '{c}::{m}' has no type name"
  | duplicateMember c m => s!"duplicate member '{m}' in class '{c}'"
  | duplicateClass c => s!"duplicate class '{c}'"
  | emptyClass c => s!"class '{c}' has no members"
  | invalidIdentifier name role =>
    s!"'{name}' is not a valid C identifier for {role.describe}"
  | invalidConditional c m guard =>
    s!"conditional '{guard}' on '{c}::{m}' is not a preprocessor test"
  | unknownClass name => s!"unknown class '{name}'"

/-- The stable code of a kind of defect. -/
def code : Defect → String
  | missingTypeName .. => "adtgen::missing_type_name"
  | duplicateMember .. => "adtgen::duplicate_member"
  | duplicateClass .. => "adtgen::duplicate_class"
  | emptyClass .. => "adtgen::empty_class"
  | invalidIdentifier .. => "adtgen::invalid_identifier"
  | invalidConditional .. => "adtgen::invalid_conditional"
  | unknownClass .. => "adtgen::unknown_class"

/-- Advice on how to mend a defect, for the kinds of defect that have some. -/
def help? : Defect → Option String
  | missingTypeName .. => some "Class, Integer and Buffer members must name their C type"
  | emptyClass .. => some "a C struct needs at least one field"
  | invalidConditional .. => some "use a line starting with #if, #ifdef or #ifndef"
  | unknownClass .. => some "run 'adtgen list' to see the catalog"
  | duplicateMember .. | duplicateClass .. | invalidIdentifier .. => none

end Defect

end OpaqueC
