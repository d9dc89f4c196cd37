import OpaqueC.Catalog.Member

/-!
# Classes

A class describes one opaque data type. The order of its members is the order of the fields
and of the statements that build and copy an object, and the reverse of the order in which
an object is released.

## Main definitions

* `Class`: a name and members;
* `Class.headerFile`, `Class.sourceFile`: the names of the two generated files;
* `Class.defects`: every violated rule, and `Class.defect?`, the first of them.
-/

namespace OpaqueC

/-- One opaque data type. -/
structure Class where
  /-- The name of the type. -/
  name : String
  /-- The members, in order. -/
  members : List Member
  deriving DecidableEq, Repr

namespace Class

/-- The name of the file with the public declarations. -/
def headerFile (c : Class) : String :=
  c.name ++ ".h"

/-- The name of the file with the definitions. -/
def sourceFile (c : Class) : String :=
  c.name ++ ".c"

/-- The first member of a given name. -/
def member? (c : Class) (name : String) : Option Member :=
  c.members.find? (·.name == name)

/-- The defects of the members of the class `className` that follow members named in
`seen`: for each member a repeated name, then its own first defect. -/
def memberDefects (className : String) : List String → List Member → List Defect
  | _, [] => []
  | seen, m :: ms =>
    (if m.name ∈ seen then [.duplicateMember className m.name] else []) ++
      (m.defect? className).toList ++ memberDefects className (m.name :: seen) ms

/-- Every violated rule of a class: its name, an empty list of members, then its members
in order. -/
def defects (c : Class) : List Defect :=
  (if isIdentifier c.name then [] else [.invalidIdentifier c.name .ofClass]) ++
    (if c.members.isEmpty then [.emptyClass c.name] else []) ++
    memberDefects c.name [] c.members

/-- The first violated rule of a class. -/
def defect? (c : Class) : Option Defect :=
  c.defects.head?

/-- A class is free of defects exactly if it has no first one. -/
theorem defect?_eq_none_iff (c : Class) : c.defect? = none ↔ c.defects = [] := by
  simp [defect?]

end Class

end OpaqueC
