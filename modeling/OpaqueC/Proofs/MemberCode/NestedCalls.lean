import OpaqueC.Proofs.Declaration.TypeText
import OpaqueC.Proofs.Fragment.Piecewise
import OpaqueC.Proofs.MemberCode.Codes
import OpaqueC.Proofs.Naming.Identifiers

/-!
# Calls on nested objects

A member that owns an object of another class calls three lifecycle functions of that class: the
constructor when the member is built, the destructor when it is released or replaced, and the copy
constructor when it is replaced. The names of these functions are made of the type text of the
member as it was declared, of which the check only asks that it is not blank. So the names are
identifiers exactly if the type text is one. A type text with a blank behind it is not, although the
declaration of the field drops the blank.

## Main definitions

* `Fragment.Call`: fragments with a line that calls a function;
* `MemberCode.setterBody`: the body of the setter of a member;
* `MemberCode.CallsNested`: a member that calls a lifecycle function of its type.

## Main results

* `MemberCode.call_construct`, `MemberCode.call_destruct`, `MemberCode.call_setterBody`: the calls
  of a nested member;
* `MemberCode.field_of_nested`: its struct field;
* `nested_calls_isIdentifier_iff`: the types for which these calls are well-formed.
-/

namespace OpaqueC

/-- A declared type is not blank, so it is not empty. -/
theorem Member.ne_empty_of_cType? {m : Member} {type : String} (hkind : m.kind = .nested)
    (htype : m.cType? = some type) : type ≠ "" := by
  rintro rfl
  rw [cType?, hkind] at htype
  exact Bool.noConfusion (Option.filter_eq_some_iff.mp htype).2

/-! ### Calls -/

namespace Fragment

mutual

/-- The lines of code in a fragment, at every depth. -/
def codeLines : Fragment → List String
  | line text => [text]
  | block opening body closing? => opening :: (allCodeLines body ++ closing?.toList)
  | blank | doc _ | directive _ => []

/-- The lines of code in a list of fragments, in order. -/
def allCodeLines : List Fragment → List String
  | [] => []
  | f :: fs => f.codeLines ++ allCodeLines fs

end

/-- Fragments with a line that calls a function: its name stands in front of the arguments, at the
beginning of the line or behind what the result is assigned to. -/
def Call (function : String) (fs : List Fragment) : Prop :=
  ∃ target arguments, target ++ function ++ "(" ++ arguments ++ ");" ∈ allCodeLines fs ∧
    (target = "" ∨ ∃ place, target = place ++ " = ")

/-- Lines of code are read off fragments one after the other. -/
theorem piecewise_codeLines : Piecewise codeLines allCodeLines :=
  ⟨rfl, fun _ _ => rfl⟩

theorem Call.append_left {function : String} {fs : List Fragment} (h : Call function fs)
    (gs : List Fragment) : Call function (fs ++ gs) := by
  obtain ⟨target, arguments, hmem, htarget⟩ := h
  refine ⟨target, arguments, ?_, htarget⟩
  rw [piecewise_codeLines.append]
  exact List.mem_append_left _ hmem

/-- A guard holds no code of its own. -/
theorem allCodeLines_guarded (guard? : Option String) (fs : List Fragment) :
    allCodeLines (guarded guard? fs) = allCodeLines fs :=
  piecewise_codeLines.guarded (fun _ _ => rfl) rfl fs

end Fragment

namespace MemberCode

open Fragment (Call)

/-- The body of the setter of a member. -/
def setterBody (m : MemberCode) : List Fragment :=
  (m.realization.accessors.filter (·.role = .set)).flatMap (·.body)

/-- A member that calls a lifecycle function of its type when it is built, released or replaced. -/
def CallsNested (m : MemberCode) (r : ClassRole) : Prop :=
  Call (r.functionName m.type) (m.construct ++ m.destruct ++ m.setterBody)

variable {m : MemberCode}

/-- The constructor of the class makes the object that a nested member owns. -/
theorem allCodeLines_construct (hkind : m.member.kind = .nested) :
    Fragment.allCodeLines m.construct =
      [m.slot.field ++ " = " ++ ClassRole.constructor.functionName m.type ++ "();"] := by
  rw [construct, wrap, Fragment.allCodeLines_guarded, realization, hkind]
  rfl

/-- The destructor of the class releases the object and forgets it. -/
theorem allCodeLines_destruct (hkind : m.member.kind = .nested) :
    Fragment.allCodeLines m.destruct =
      [Realization.release m.slot, m.slot.field ++ " = 0;"] := by
  rw [destruct, wrap, Fragment.allCodeLines_guarded, realization, hkind]
  rfl

/-- The setter makes a copy of the new value, if there is one, before it releases the old one. -/
theorem allCodeLines_setterBody (hkind : m.member.kind = .nested) :
    Fragment.allCodeLines m.setterBody =
      [m.type ++ " *" ++ "q = 0;",
        "if (n) \x7b",
        "q = " ++ ClassRole.duplicate.functionName m.type ++ "(" ++ "n" ++ ");",
        "if (!q) return 0;",
        "\x7d",
        Realization.release m.slot,
        m.slot.field ++ " = q;",
        "return 1;"] := by
  rw [setterBody, realization, hkind]
  rfl

/-- Releasing the object of a nested member is a call. -/
theorem call_of_release_mem {fs : List Fragment}
    (h : Realization.release m.slot ∈ Fragment.allCodeLines fs) :
    Call (ClassRole.destructor.functionName m.type) fs := by
  refine ⟨"", m.slot.field, ?_, .inl rfl⟩
  rwa [String.empty_append]

/-- A nested member is built by the constructor of its type. -/
theorem call_construct (hkind : m.member.kind = .nested) :
    Call (ClassRole.constructor.functionName m.type) m.construct := by
  refine ⟨m.slot.field ++ " = ", "", ?_, .inr ⟨m.slot.field, rfl⟩⟩
  rw [allCodeLines_construct hkind, List.mem_singleton, String.append_empty, String.append_assoc]
  rfl

/-- A nested member is released by the destructor of its type. -/
theorem call_destruct (hkind : m.member.kind = .nested) :
    Call (ClassRole.destructor.functionName m.type) m.destruct := by
  apply call_of_release_mem
  rw [allCodeLines_destruct hkind]
  exact List.mem_cons_self

/-- A nested member is replaced by a copy of the new value, and the old value is released. -/
theorem call_setterBody (hkind : m.member.kind = .nested) :
    Call (ClassRole.duplicate.functionName m.type) m.setterBody ∧
      Call (ClassRole.destructor.functionName m.type) m.setterBody := by
  constructor
  · refine ⟨"q = ", "n", ?_, .inr ⟨"q", rfl⟩⟩
    rw [allCodeLines_setterBody hkind]
    simp
  · apply call_of_release_mem
    rw [allCodeLines_setterBody hkind]
    simp

end MemberCode

/-! ### The declared field -/

/-- A pointer is declared by its type without the blanks around it. -/
theorem declare_classPointer (type name : String) :
    declare (classPointer type) name = Text.trim type ++ " *" ++ name := by
  have hspace : Text.isAllBlank " " = true := by decide
  have hjoin (s : String) : s ++ " " ++ "*" = s ++ " *" := by
    rw [String.append_assoc]
    rfl
  have hrun := starRun_of_space type (by decide : "*".toList.all isStar = true)
  rw [classPointer, ← hjoin, hrun.declare_eq (absurd · (by decide)), Text.trim_append_right hspace,
    hjoin]

example : declare (classPointer "Bar ") "m_Inner" = "Bar *m_Inner" := by decide +kernel

/-- The struct field of a nested member names the trimmed type. -/
theorem MemberCode.field_of_nested {m : MemberCode} (hkind : m.member.kind = .nested) :
    m.field =
      m.wrap [.line (Text.trim m.type ++ " *" ++ fieldName m.member.name ++ ";")] := by
  have hstorage : m.realization.storage = classPointer m.type := by
    rw [realization, hkind]
    rfl
  rw [field, hstorage, declare_classPointer]

/-! ### Well-formed calls -/

open Fragment (Call)

/-- A nested member without defects calls the constructor, the destructor and the copy constructor
of its type, and the names that it calls are identifiers exactly if its type is one. -/
theorem nested_calls_isIdentifier_iff {m : Member} {className : String} (hkind : m.kind = .nested)
    (hm : m.defect? className = none) :
    ∃ type, m.cType? = some type ∧
      Call (ClassRole.constructor.functionName type) (m.code className).construct ∧
      Call (ClassRole.destructor.functionName type) (m.code className).destruct ∧
      Call (ClassRole.duplicate.functionName type) (m.code className).setterBody ∧
      Call (ClassRole.destructor.functionName type) (m.code className).setterBody ∧
      ((∀ r : ClassRole, (m.code className).CallsNested r →
        isIdentifier (r.functionName type) = true) ↔ isIdentifier type = true) := by
  obtain ⟨type, htype⟩ := Option.isSome_iff_exists.mp (Member.isSome_cType? hm)
  have hcode : (m.code className).type = type := by
    rw [Member.code, htype, Option.getD_some]
  have hconstruct := MemberCode.call_construct (m := m.code className) hkind
  have hdestruct := MemberCode.call_destruct (m := m.code className) hkind
  have hset := MemberCode.call_setterBody (m := m.code className) hkind
  rw [hcode] at hconstruct hdestruct hset
  have hne := Member.ne_empty_of_cType? hkind htype
  refine ⟨type, htype, hconstruct, hdestruct, hset.1, hset.2, fun hcalls => ?_, fun h r _ => ?_⟩
  · -- One of the calls is enough, since each name is the type with a word behind it.
    have hcall : (m.code className).CallsNested .constructor := by
      rw [MemberCode.CallsNested, hcode]
      exact (hconstruct.append_left _).append_left _
    exact (ClassRole.isIdentifier_functionName_iff _ hne).mp (hcalls .constructor hcall)
  · exact (ClassRole.isIdentifier_functionName_iff _ hne).mpr h

/-- A member of the class `Foo` that owns an object of the type with a given text. -/
def innerMember (type : String) : Member :=
  { name := "Inner", kind := .nested, typeName? := some type, guard? := some "#ifdef INNER" }

/-- The functions that an owned object of the class `Bar` is handled by have proper names. -/
theorem innerMember_calls_isIdentifier :
    (innerMember "Bar").kind = .nested ∧ (innerMember "Bar").defect? "Foo" = none ∧
      ∀ r : ClassRole, ((innerMember "Bar").code "Foo").CallsNested r →
        isIdentifier (r.functionName "Bar") = true := by
  have hm : (innerMember "Bar").defect? "Foo" = none := by decide +kernel
  refine ⟨rfl, hm, ?_⟩
  obtain ⟨type, htype, _, _, _, _, hiff⟩ := nested_calls_isIdentifier_iff rfl hm
  obtain rfl : "Bar" = type := Option.some.inj (htype ▸ by decide +kernel)
  exact hiff.mpr (by decide +kernel)

/-- A blank behind the name of the class does no harm where the field is declared, but the function
that builds the object is called by a text that is no identifier. -/
theorem not_forall_nested_calls_isIdentifier :
    ¬ ∀ (className : String) (m : Member), isIdentifier className = true → m.kind = .nested →
      m.defect? className = none → ∀ r : ClassRole, (m.code className).CallsNested r →
        isIdentifier (r.functionName (m.code className).type) = true := by
  intro h
  have hm : (innerMember "Bar ").defect? "Foo" = none := by decide +kernel
  have hcall : ((innerMember "Bar ").code "Foo").CallsNested .constructor :=
    ((MemberCode.call_construct rfl).append_left _).append_left _
  have hname := h "Foo" (innerMember "Bar ") (by decide +kernel) rfl hm .constructor hcall
  revert hname
  decide +kernel

end OpaqueC
