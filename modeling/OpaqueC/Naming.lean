/-!
# Generated names

The names of everything generated for a class and its members. A name is made of the class
name, the role of the thing it names and the member name, joined by underscores.

## Main definitions

* `structTag`: the tag of the struct behind a class;
* `classPointer`, `constClassPointer`: the types of pointers to its objects;
* `ClassRole`: the four functions of every class, with `ClassRole.functionName`;
* `AccessorRole`: the accessors a member may have, with `AccessorRole.functionName`;
* `fieldName`: the struct field of a member.
-/

namespace OpaqueC

/-- The tag of the struct behind a class. -/
def structTag (className : String) : String :=
  "s_" ++ className

/-- The type of a pointer to an object of a class. -/
def classPointer (className : String) : String :=
  className ++ " *"

/-- The type of a pointer to an object of a class for reading. -/
def constClassPointer (className : String) : String :=
  "const " ++ className ++ " *"

/-- The struct field of a member. -/
def fieldName (memberName : String) : String :=
  "m_" ++ memberName

/-- The functions every class has. -/
inductive ClassRole
  /-- Makes an object. -/
  | constructor
  /-- Releases an object. -/
  | destructor
  /-- Makes a copy of an object. -/
  | duplicate
  /-- Copies one object over another. -/
  | assign
  deriving DecidableEq, Repr

namespace ClassRole

/-- Every role, in the order of the header. -/
def all : List ClassRole := [constructor, destructor, duplicate, assign]

/-- The part of the name that tells the role. -/
def word : ClassRole → String
  | constructor => "new"
  | destructor => "delete"
  | duplicate => "dup"
  | assign => "assign"

/-- The name of the function of a class. -/
def functionName (r : ClassRole) (className : String) : String :=
  className ++ "_" ++ r.word

end ClassRole

/-- The accessors that members of one kind or another have. -/
inductive AccessorRole
  /-- Reads the member. -/
  | get
  /-- Gives access for writing. -/
  | getMutable
  /-- Replaces the member. -/
  | set
  /-- Empties the member. -/
  | clear
  /-- Inserts into a list. -/
  | addToList
  /-- The length of a string. -/
  | length
  /-- The characters of a string. -/
  | cstr
  /-- Copies characters into a string. -/
  | strcpy
  /-- Copies at most so many characters into a string. -/
  | strncpy
  deriving DecidableEq, Repr

namespace AccessorRole

/-- Every role. -/
def all : List AccessorRole :=
  [get, getMutable, set, clear, addToList, length, cstr, strcpy, strncpy]

/-- The part of the name between the class name and the member name. -/
def word : AccessorRole → String
  | get | length | cstr => "get"
  | getMutable => "getnc"
  | set => "set"
  | clear => "clear"
  | addToList => "add_to_list"
  | strcpy => "strcpy"
  | strncpy => "strncpy"

/-- The part of the name after the member name. -/
def ending : AccessorRole → String
  | length => "_Length"
  | cstr => "_cstr"
  | _ => ""

/-- The name of the accessor of a member. -/
def functionName (r : AccessorRole) (className memberName : String) : String :=
  className ++ "_" ++ r.word ++ "_" ++ memberName ++ r.ending

end AccessorRole

end OpaqueC
