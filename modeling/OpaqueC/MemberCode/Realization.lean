import OpaqueC.Catalog.Kind
import OpaqueC.MemberCode.Slot

/-!
# Realizations

How members of each kind are realized in C: the type of the struct field, the statements
that build and release the member, and its accessors. The prototypes in the header and the
definitions in the source are both made from the same accessors.

## Main definitions

* `Realization`: storage, statements and accessors;
* `Realization.ofKind`: the realization of a member of a given kind.
-/

namespace OpaqueC

/-- The C code for one member, before its guard. -/
structure Realization where
  /-- The type of the struct field. -/
  storage : String
  /-- The statements of the constructor. -/
  construct : List String
  /-- The statements of the destructor. -/
  destruct : List String
  /-- The accessors, in the order of their prototypes. -/
  accessors : List Accessor
  deriving Repr

namespace Realization

/-- The body that returns one expression. -/
def returning (expression : String) : List Fragment :=
  [.line ("return " ++ expression ++ ";")]

/-- The body of a setter that performs statements and reports success. -/
def succeeding (statements : List Fragment) : List Fragment :=
  statements ++ [.blank, .line "return 1;"]

/-- The body of a setter that replaces an owned object: copy the new value, if there is
one, and release the old value only when the copy exists. -/
def replacing (declaration source copy release assign : String) : List Fragment :=
  succeeding [
    .line (declaration ++ "q = 0;"),
    .blank,
    .block ("if (" ++ source ++ ") \x7b")
      [.line ("q = " ++ copy ++ "(" ++ source ++ ");"), .line "if (!q) return 0;"]
      (some "\x7d"),
    .line release,
    .line assign]

/-- The statement that releases an object of the member's type. -/
def release (s : Slot) : String :=
  ClassRole.destructor.functionName s.type ++ "(" ++ s.field ++ ");"

/-- An owned pointer to an object of another generated class, handled by the lifecycle
functions of that class. -/
def nested (s : Slot) : Realization where
  storage := s.pointer
  construct := [s.field ++ " = " ++ ClassRole.constructor.functionName s.type ++ "();"]
  destruct := [release s, s.field ++ " = 0;"]
  accessors := [
    { role := .get, result := s.constPointer, parameters := [s.constSelf]
      body := returning s.field },
    { role := .set, result := "int", parameters := [s.self, ⟨s.constPointer, "n"⟩]
      body := replacing (s.type ++ " *") "n" (ClassRole.duplicate.functionName s.type)
        (release s) (s.field ++ " = q;") }]

/-- A value of the declared type. Memory is cleared when an object is made, so that only a
declared initial value has to be stored. -/
def scalar (s : Slot) : Realization where
  storage := s.type
  construct :=
    match s.initial? with
    | some value => [s.field ++ " = " ++ value ++ ";"]
    | none => ["/*" ++ s.field ++ " = 0;*/"]
  destruct := [s.field ++ " = " ++ s.initial?.getD "0" ++ ";"]
  accessors := [
    { role := .get, result := s.type, parameters := [s.constSelf], body := returning s.field },
    { role := .set, result := "int", parameters := [s.self, ⟨s.type, "n"⟩]
      body := succeeding [.line (s.field ++ " = n;")] }]

/-- The statement that clears a buffer. -/
def clearStatement (s : Slot) : String :=
  "memset(&" ++ s.field ++ ", 0, sizeof (" ++ s.type ++ "));"

/-- A struct held in place and copied as a whole. -/
def buffer (s : Slot) : Realization where
  storage := s.type
  construct :=
    match s.initial? with
    | some statement => [statement]
    | none => ["/* " ++ clearStatement s ++ " */"]
  destruct := [clearStatement s]
  accessors := [
    { role := .get, result := s.constPointer, parameters := [s.constSelf]
      body := returning ("&" ++ s.field) },
    { role := .getMutable, result := s.pointer, parameters := [s.self]
      body := returning ("&" ++ s.field) },
    { role := .set, result := "int", parameters := [s.self, ⟨s.constPointer, "buf"⟩]
      body := succeeding [.line (s.field ++ " = *buf;")] },
    { role := .clear, result := "void", parameters := [s.self]
      body := [.line (clearStatement s)] }]

/-- The head of an intrusive list. Releasing it makes it empty again. -/
def list (s : Slot) : Realization where
  storage := s.type
  construct := ["UpnpListInit(&" ++ s.field ++ ");"]
  destruct := ["UpnpListInit(&" ++ s.field ++ ");"]
  accessors := [
    { role := .get, result := s.constPointer, parameters := [s.constSelf]
      body := returning ("&" ++ s.field) },
    { role := .set, result := "int", parameters := [s.self, ⟨s.constPointer, "q"⟩]
      body := succeeding [.line (s.field ++ " = *q;")] },
    { role := .addToList, result := "void", parameters := [s.self, ⟨s.pointer, "head"⟩]
      body := [
        .line (s.type ++ " *list = &" ++ s.field ++ ";"),
        .line "UpnpListInsert(list, UpnpListEnd(list), head);"] }]

/-- An owned string object. -/
def string (s : Slot) : Realization where
  storage := s.pointer
  construct := [s.field ++ " = UpnpString_new();"]
  destruct := ["UpnpString_delete(" ++ s.field ++ ");", s.field ++ " = 0;"]
  accessors := [
    { role := .get, result := "const UpnpString *", parameters := [s.constSelf]
      body := returning s.field },
    { role := .set, result := "int", parameters := [s.self, ⟨"const UpnpString *", "s"⟩]
      body := [
        .line "const char *q = UpnpString_get_String(s);",
        .blank] ++ returning ("UpnpString_set_String(" ++ s.field ++ ", q)") },
    { role := .length, result := "size_t", parameters := [s.constSelf]
      body := returning ("UpnpString_get_Length(" ++ s.accessorName .get ++ "(p))") },
    { role := .cstr, result := "const char *", parameters := [s.constSelf]
      body := returning ("UpnpString_get_String(" ++ s.accessorName .get ++ "(p))") },
    { role := .strcpy, result := "int", parameters := [s.self, ⟨"const char *", "s"⟩]
      body := returning ("UpnpString_set_String(" ++ s.field ++ ", s)") },
    { role := .strncpy, result := "int"
      parameters := [s.self, ⟨"const char *", "s"⟩, ⟨"size_t", "n"⟩]
      body := returning ("UpnpString_set_StringN(" ++ s.field ++ ", s, n)") },
    { role := .clear, result := "void", parameters := [s.self]
      body := [.line ("UpnpString_clear(" ++ s.field ++ ");")] }]

/-- An owned DOM string. -/
def domString (s : Slot) : Realization where
  storage := s.type
  construct := ["/*" ++ s.field ++ " = 0;*/"]
  destruct := ["ixmlFreeDOMString(" ++ s.field ++ ");", s.field ++ " = 0;"]
  accessors := [
    { role := .get, result := "const " ++ s.type, parameters := [s.constSelf]
      body := returning s.field },
    { role := .set, result := "int", parameters := [s.self, ⟨"const " ++ s.type, "s"⟩]
      body := replacing (s.type ++ " ") "s" "ixmlCloneDOMString"
        ("ixmlFreeDOMString(" ++ s.field ++ ");") (s.field ++ " = q;") },
    { role := .cstr, result := "const char *", parameters := [s.constSelf]
      body := returning ("(const char *)" ++ s.accessorName .get ++ "(p)") }]

/-- The realization of a member of a given kind. -/
def ofKind : Kind → Slot → Realization
  | .nested => nested
  | .scalar => scalar
  | .buffer => buffer
  | .list => list
  | .string => string
  | .domString => domString

end Realization

end OpaqueC
