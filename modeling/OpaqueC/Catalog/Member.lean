import OpaqueC.Catalog.Defect
import OpaqueC.Identifier
import OpaqueC.Text.Blank

/-!
# Members of a class

## Main definitions

* `Member`: a name, a kind, and what the author of the class declared about it;
* `Member.cType?`: the C type the generated code uses for the member;
* `Member.requiredHeader?`: the header that has to declare that type;
* `Member.defect?`: the first rule that the member violates.
-/

namespace OpaqueC

/-- One member of a class. -/
structure Member where
  /-- The name that fields and accessors are derived from. -/
  name : String
  /-- How the member is kept. -/
  kind : Kind
  /-- The declared C type. Kinds with an implicit type disregard it. -/
  typeName? : Option String := none
  /-- The declared header. One in angle brackets is a system header. -/
  header? : Option String := none
  /-- The first value of a scalar, or the statement that fills a buffer. -/
  initial? : Option String := none
  /-- The preprocessor test around everything generated for the member. -/
  guard? : Option String := none
  deriving DecidableEq, Repr

/-- Whether `guard` opens a preprocessor test: after any blanks stand `#ifdef`, `#ifndef`
or `#if`, a space, and something that is not blank. -/
def opensTest (guard : String) : Bool :=
  let text := (Text.trimStart guard).toList
  ["#ifdef ", "#ifndef ", "#if "].any fun word =>
    word.toList.isPrefixOf text && !(text.drop word.length).all Text.isBlank

namespace Member

/-- The implicit type of the kind, else the declared type unless it is blank. -/
def cType? (m : Member) : Option String :=
  match m.kind.implicitType? with
  | some type => some type
  | none => m.typeName?.filter fun type => !Text.isAllBlank type

/-- The declared header, else the one implied by the kind. -/
def requiredHeader? (m : Member) : Option String :=
  m.header?.or m.kind.impliedHeader?

/-- The first rule that `m` violates as a member of the class `className`: its name is an
identifier, its type is named where the kind asks for one, and its guard opens a
preprocessor test. -/
def defect? (m : Member) (className : String) : Option Defect :=
  if !isIdentifier m.name then
    some (.invalidIdentifier m.name (.ofMember className))
  else if m.kind.requiresTypeName && m.cType?.isNone then
    some (.missingTypeName className m.name m.kind)
  else
    match m.guard? with
    | some guard =>
      if opensTest guard then none else some (.invalidConditional className m.name guard)
    | none => none

/-- The type of a member with an implicit type does not depend on the declared one. -/
theorem cType?_of_implicit {m : Member} {type : String}
    (h : m.kind.implicitType? = some type) : m.cType? = some type := by
  simp [cType?, h]

/-- A member without defects has a type. -/
theorem isSome_cType? {m : Member} {className : String} (h : m.defect? className = none) :
    m.cType?.isSome = true := by
  cases hk : m.kind.implicitType? with
  | some type => simp [cType?_of_implicit hk]
  | none =>
    cases ht : m.cType? with
    | some type => rfl
    | none => cases hn : isIdentifier m.name <;>
        simp [defect?, Kind.requiresTypeName, hk, ht, hn] at h

end Member

end OpaqueC
