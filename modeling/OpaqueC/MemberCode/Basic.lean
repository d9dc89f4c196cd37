import OpaqueC.Catalog.Class
import OpaqueC.Fragment.Guard
import OpaqueC.MemberCode.Realization

/-!
# The code of a member

A member without defects together with the slot that its code is made from. Everything it
contributes to the generated files is already inside the member's guard.

## Main definitions

* `MemberCode.ofMember`: the code of a member, or the member's defect;
* `MemberCode.field`, `MemberCode.construct`, `MemberCode.destruct`, `MemberCode.assign`: its
  part of the struct and of the functions of the class;
* `MemberCode.prototypes`, `MemberCode.definitions`: its accessors;
* `Class.memberCodes`: the code of every member of a class without defects.
-/

namespace OpaqueC

/-- A member ready to be generated. -/
structure MemberCode where
  /-- The name of the class. -/
  className : String
  /-- The member. -/
  member : Member
  /-- The C type of the member. -/
  type : String
  deriving DecidableEq, Repr

namespace MemberCode

/-- The code of a member of the class `className`, or the first rule that it violates. -/
def ofMember (className : String) (member : Member) : Except Defect MemberCode :=
  match member.defect? className with
  | some defect => .error defect
  | none =>
    match member.cType? with
    | some type => .ok { className, member, type }
    | none => .error (.missingTypeName className member.name member.kind)

/-- The ingredients of the code. -/
def slot (m : MemberCode) : Slot :=
  { className := m.className, memberName := m.member.name, type := m.type
    initial? := m.member.initial? }

/-- The realization of the member. -/
def realization (m : MemberCode) : Realization :=
  .ofKind m.member.kind m.slot

/-- Fragments inside the guard of the member. -/
def wrap (m : MemberCode) (body : List Fragment) : List Fragment :=
  Fragment.guarded m.member.guard? body

/-- The accessor functions of the member. -/
def functions (m : MemberCode) : List FunctionDef :=
  m.realization.accessors.map m.slot.define

/-- The declaration of the struct field. -/
def field (m : MemberCode) : List Fragment :=
  m.wrap [.line (declare m.realization.storage (fieldName m.member.name) ++ ";")]

/-- The statements of the constructor. -/
def construct (m : MemberCode) : List Fragment :=
  m.wrap (m.realization.construct.map .line)

/-- The statements of the destructor. -/
def destruct (m : MemberCode) : List Fragment :=
  m.wrap (m.realization.destruct.map .line)

/-- The line that copies the member from `q` to `p` through its getter and its setter. -/
def assign (m : MemberCode) : List Fragment :=
  m.wrap [.line ("ok = ok && " ++ m.slot.accessorName .set ++ "(p, " ++
    m.slot.accessorName .get ++ "(q));")]

/-- The prototypes of the accessors. -/
def prototypes (m : MemberCode) (exportMacro : String) : List Fragment :=
  m.wrap (m.functions.flatMap (·.prototype exportMacro))

/-- The definitions of the accessors, with blank lines between them. -/
def definitions (m : MemberCode) : List Fragment :=
  m.wrap ([Fragment.blank].intercalate (m.functions.map (·.fragments)))

/-- A member has code exactly if it has no defect. -/
theorem ofMember_eq_ok_iff {className : String} {member : Member} :
    (∃ m, ofMember className member = .ok m) ↔ member.defect? className = none := by
  unfold ofMember
  cases h : member.defect? className with
  | some defect => simp
  | none =>
    obtain ⟨type, ht⟩ := Option.isSome_iff_exists.1 (Member.isSome_cType? h)
    simp [ht]

end MemberCode

/-- The code of every member of a class, or the first rule that the class violates. -/
def Class.memberCodes (c : Class) : Except Defect (List MemberCode) :=
  match c.defect? with
  | some defect => .error defect
  | none => c.members.mapM (MemberCode.ofMember c.name)

end OpaqueC
