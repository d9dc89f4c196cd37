/-!
# Kinds of members

A member's kind decides how the generated code stores, builds, releases and reads it. The
set of kinds is closed.

## Main definitions

* `Kind`: the six kinds;
* `Kind.implicitType?`: the C type of a kind that has only one;
* `Kind.impliedHeader?`: the header a kind needs when its member names none.
-/

namespace OpaqueC

/-- How a member of a class is kept. -/
inductive Kind
  /-- An owned pointer to an object of another generated class. -/
  | nested
  /-- A plain value of the declared type: a number, a pointer or a handle. -/
  | scalar
  /-- A struct of the declared type, held in place. -/
  | buffer
  /-- The head of an intrusive list. -/
  | list
  /-- An owned string object. -/
  | string
  /-- An owned DOM string. -/
  | domString
  deriving DecidableEq, Repr

namespace Kind

/-- Every kind, in the order of declaration. -/
def all : List Kind := [nested, scalar, buffer, list, string, domString]

/-- The list of kinds is complete. -/
theorem mem_all (k : Kind) : k ∈ all := by
  cases k <;> simp [all]

/-- The name under which a kind is shown. -/
def label : Kind → String
  | nested => "Class"
  | scalar => "Integer"
  | buffer => "Buffer"
  | list => "List"
  | string => "String"
  | domString => "DomString"

/-- The kind shown under a name. -/
def ofLabel? (s : String) : Option Kind :=
  all.find? (·.label == s)

/-- The C type of the kinds that have only one. -/
def implicitType? : Kind → Option String
  | list => some "UpnpListHead"
  | string => some "UpnpString"
  | domString => some "DOMString"
  | nested | scalar | buffer => none

/-- Whether a member of this kind has to name its type. -/
def requiresTypeName (k : Kind) : Bool :=
  k.implicitType?.isNone

/-- The header a member of this kind needs when it names none. -/
def impliedHeader? : Kind → Option String
  | list => some "list.h"
  | string => some "UpnpString.h"
  | domString => some "ixml.h"
  | nested | scalar | buffer => none

/-- A kind is found under its own name. -/
theorem ofLabel?_label (k : Kind) : ofLabel? k.label = some k := by
  cases k <;> decide

end Kind

end OpaqueC
