import OpaqueC.Proofs.Interface.Agreement
import OpaqueC.Proofs.MemberCode.Calls
import OpaqueC.Proofs.Naming.Identifiers

/-!
# Members that own objects of another class

A member may own an object of another class of the catalog. Its code is made from the name of that
class alone, while the functions it calls are declared and defined in the files of the other class.
Both sides fit: the functions called are lifecycle functions of the other class, the constructor
gives what the field holds, the destructor takes it, and the copy constructor makes it from what the
setter is given.

## Main definitions

* `ClassRole.call`: a call of a lifecycle function;
* `MemberCode.UsesLifecycle`: the code of a member that handles an object by the lifecycle functions
  of its class, with the types that it stores and is given.

## Main results

* `Member.cType?_of_isIdentifier`: a nested member has the type that it names;
* `MemberCode.callees_construct`, `MemberCode.callees_destruct`, `MemberCode.callees_setterBody`:
  the functions that a nested member calls;
* `ClassRole.mem_files`: the lifecycle functions are declared in the header and defined in the
  source;
* `nested_calls_fit_lifecycle`: the calls of a nested member fit the functions of its class.
-/

namespace OpaqueC

/-- A nested member has the type that it names, if this is an identifier. -/
theorem Member.cType?_of_isIdentifier {m : Member} (hkind : m.kind = .nested) {type : String}
    (htype : m.typeName? = some type) (hname : isIdentifier type = true) :
    m.cType? = some type := by
  rw [cType?, hkind, htype]
  simp [Kind.implicitType?, isAllBlank_of_isIdentifier hname]

/-! ### Calls of lifecycle functions -/

namespace ClassRole

/-- A call of a lifecycle function. -/
def call (r : ClassRole) (className arguments : String) : String :=
  r.functionName className ++ "(" ++ arguments ++ ")"

/-- The signatures of the lifecycle functions of a class. -/
def signatures (className : String) : List Signature :=
  all.map (·.signature className)

theorem signature_mem_signatures (r : ClassRole) (className : String) :
    r.signature className ∈ signatures className :=
  List.mem_map_of_mem (by cases r <;> decide)

/-- The lifecycle functions of a class without defects are declared in its header and defined in its
source, as soon as these are complete. -/
theorem mem_files (r : ClassRole) (o : Options) {c : Class} (hc : c.defect? = none) :
    ((HeaderFile.emitted o c).cause? = none →
      asPrototype o.exportMacro (r.signature c.name).render ∈
        Reader.prototypes.lines (HeaderFile.emitted o c).fragments) ∧
    ((SourceFile.emitted o c).cause? = none →
      (r.signature c.name).render ∈
        Reader.definitions.lines (SourceFile.emitted o c).fragments) := by
  have hall : r ∈ all := by cases r <;> decide
  constructor
  · intro hdone
    rw [HeaderFile.prototypes_emitted hc hdone]
    exact List.mem_map_of_mem (List.mem_append_left _ (List.mem_map_of_mem hall))
  · intro hdone
    rw [SourceFile.definitions_emitted hc hdone, SourceFile.lifecycle_signatures]
    exact List.mem_append_left _ (List.mem_map_of_mem (SourceFile.roles_perm.mem_iff.mp hall))

end ClassRole

namespace MemberCode

variable {m : MemberCode}

theorem parenthesis_not_mem_field (hname : isIdentifier m.member.name = true) :
    '(' ∉ m.slot.field.toList := by
  have hmember : '(' ∉ m.member.name.toList := not_mem_of_isIdentifier hname (by decide)
  show '(' ∉ ("p->" ++ ("m_" ++ m.member.name)).toList
  simp [String.toList_append, hmember]

theorem parenthesis_not_mem_store (hname : isIdentifier m.member.name = true) {value : String}
    (hvalue : '(' ∉ value.toList) : '(' ∉ (m.slot.field ++ value).toList := by
  rw [String.toList_append, List.mem_append, not_or]
  exact ⟨parenthesis_not_mem_field hname, hvalue⟩

/-- Storing something in the field calls nothing. -/
theorem callees_store (hname : isIdentifier m.member.name = true) {value : String}
    (hvalue : '(' ∉ value.toList) : Text.callees (m.slot.field ++ value) = [] :=
  Text.callees_eq_nil (parenthesis_not_mem_store hname hvalue)

/-- Releasing an object calls the destructor of its class. -/
theorem callees_release (hname : isIdentifier m.member.name = true)
    (htype : isIdentifier m.type = true) :
    Text.callees (Realization.release m.slot) = [ClassRole.destructor.functionName m.type] := by
  have hcall : Text.callees ("" ++ ClassRole.destructor.functionName m.type ++ "(" ++
      m.slot.field ++ ");") = [ClassRole.destructor.functionName m.type] :=
    Text.callees_statement (by decide) (by decide)
      (ClassRole.destructor.isIdentifier_functionName htype) (parenthesis_not_mem_field hname)
  rwa [String.empty_append] at hcall

section Nested

variable (hkind : m.member.kind = .nested) (hname : isIdentifier m.member.name = true)
  (htype : isIdentifier m.type = true)

include hkind hname htype

/-- The constructor of the class calls the constructor of the nested object. -/
theorem callees_construct :
    Fragment.callees m.construct = [ClassRole.constructor.functionName m.type] := by
  have hfront : '(' ∉ (m.slot.field ++ " = ").toList :=
    parenthesis_not_mem_store hname (by decide)
  have hbreak : Text.breaksOff (m.slot.field ++ " = ") = true := by
    rw [Text.breaksOff, String.toList_append, List.getLast?_append]
    rfl
  have hcall := Text.callees_statement hfront hbreak
    (ClassRole.constructor.isIdentifier_functionName htype) (by decide : '(' ∉ "".toList)
  rw [String.append_empty, String.append_assoc] at hcall
  rw [Fragment.callees, allCodeLines_construct hkind, List.flatMap_singleton]
  exact hcall

/-- The destructor of the class calls the destructor of the nested object. -/
theorem callees_destruct :
    Fragment.callees m.destruct = [ClassRole.destructor.functionName m.type] := by
  rw [Fragment.callees, allCodeLines_destruct hkind, List.flatMap_cons, List.flatMap_singleton,
    callees_release hname htype, callees_store hname (by decide), List.append_nil]

/-- The setter calls the copy constructor for the new object and the destructor for the old one. -/
theorem callees_setterBody :
    Fragment.callees m.setterBody =
      [ClassRole.duplicate.functionName m.type, ClassRole.destructor.functionName m.type] := by
  have htypeName : '(' ∉ m.type.toList := not_mem_of_isIdentifier htype (by decide)
  have hvariable : '(' ∉ (m.type ++ " *" ++ "q = 0;").toList := by
    simp [String.toList_append, htypeName]
  have hcopy : Text.callees
      ("q = " ++ ClassRole.duplicate.functionName m.type ++ "(" ++ "n" ++ ");") =
        [ClassRole.duplicate.functionName m.type] :=
    Text.callees_statement (by decide) (by decide)
      (ClassRole.duplicate.isIdentifier_functionName htype) (by decide)
  have hplain : Text.callees "if (n) \x7b" = [] ∧ Text.callees "if (!q) return 0;" = [] ∧
      Text.callees "\x7d" = [] ∧ Text.callees "return 1;" = [] := by decide
  obtain ⟨hif, hfailed, hend, hreturn⟩ := hplain
  rw [Fragment.callees, allCodeLines_setterBody hkind]
  -- Of the eight lines, only the one with the copy and the one with the release call a function.
  simp only [List.flatMap_cons, List.flatMap_nil, Text.callees_eq_nil hvariable, hif, hcopy,
    hfailed, hend, callees_release hname htype,
    callees_store hname (by decide : '(' ∉ " = q;".toList), hreturn, List.append_nil,
    List.nil_append, List.singleton_append]

end Nested

/-- The code of a member that handles an object of the class `owned` by the lifecycle functions of
this class. The field is declared with the type `stored`, and the setter takes the type `given`. -/
structure UsesLifecycle (m : MemberCode) (owned stored given : String) : Prop where
  /-- The field is declared with the stored type. -/
  field_eq : m.field = Fragment.guarded m.member.guard?
    [.line (declare stored (fieldName m.member.name) ++ ";")]
  /-- The setter takes the given type behind the object. -/
  setter_eq : m.realization.accessors.filter (·.role = .set) =
    [{ role := .set, result := "int", parameters := [m.slot.self, ⟨given, "n"⟩]
       body := m.setterBody }]
  /-- The constructor stores a new object. -/
  construct_lines : Fragment.allCodeLines m.construct =
    [m.slot.field ++ " = " ++ ClassRole.constructor.call owned "" ++ ";"]
  /-- The destructor releases the stored object. -/
  destruct_lines : Fragment.allCodeLines m.destruct =
    [ClassRole.destructor.call owned m.slot.field ++ ";", m.slot.field ++ " = 0;"]
  /-- The setter stores a copy of the given object instead of the one stored before. -/
  setterBody_lines : Fragment.allCodeLines m.setterBody =
    [declare stored "q" ++ " = 0;",
      "if (n) \x7b",
      "q = " ++ ClassRole.duplicate.call owned "n" ++ ";", "if (!q) return 0;", "\x7d",
      ClassRole.destructor.call owned m.slot.field ++ ";",
      m.slot.field ++ " = q;",
      "return 1;"]
  /-- The constructor takes nothing and gives the stored type. -/
  constructor_signature : ClassRole.constructor.signature owned =
    { result := stored, name := ClassRole.constructor.functionName owned, parameters := [] }
  /-- The destructor takes the stored type. -/
  destructor_signature : ClassRole.destructor.signature owned =
    { result := "void", name := ClassRole.destructor.functionName owned
      parameters := [⟨stored, "p"⟩] }
  /-- The copy constructor takes the given type and gives the stored type. -/
  duplicate_signature : ClassRole.duplicate.signature owned =
    { result := stored, name := ClassRole.duplicate.functionName owned
      parameters := [⟨given, "q"⟩] }
  /-- What is stored in the field at first has the type of the field. -/
  hasType_construct : HasType (ClassRole.signatures owned) []
    (ClassRole.constructor.call owned "") stored
  /-- The field can be released. -/
  hasType_destruct : HasType (ClassRole.signatures owned) [⟨stored, m.slot.field⟩]
    (ClassRole.destructor.call owned m.slot.field) "void"
  /-- What is made of the parameter of the setter has the type of the field. -/
  hasType_copy : HasType (ClassRole.signatures owned) [⟨given, "n"⟩]
    (ClassRole.duplicate.call owned "n") stored

/-- A nested member stores a pointer to an object of its type, and its setter is given a pointer for
reading. -/
theorem usesLifecycle (hkind : m.member.kind = .nested) (htype : isIdentifier m.type = true) :
    m.UsesLifecycle m.type (classPointer m.type) (constClassPointer m.type) where
  field_eq := by
    rw [field, wrap, realization, hkind]
    rfl
  setter_eq := by
    rw [setterBody, realization, hkind]
    rfl
  construct_lines := by
    rw [allCodeLines_construct hkind, ClassRole.call]
    simp only [String.append_assoc]
    rfl
  destruct_lines := by
    rw [allCodeLines_destruct hkind, Realization.release, ClassRole.call]
    simp only [String.append_assoc]
    rfl
  setterBody_lines := by
    rw [allCodeLines_setterBody hkind, declare_classPointer, trim_of_isIdentifier htype,
      Realization.release]
    simp only [ClassRole.call, String.append_assoc]
    rfl
  constructor_signature := rfl
  destructor_signature := rfl
  duplicate_signature := rfl
  hasType_construct :=
    .call_nil (s := ClassRole.constructor.signature m.type)
      (ClassRole.signature_mem_signatures _ _) rfl
  hasType_destruct :=
    .call_singleton (s := ClassRole.destructor.signature m.type)
      (ClassRole.signature_mem_signatures _ _) rfl (.var List.mem_cons_self)
  hasType_copy :=
    .call_singleton (s := ClassRole.duplicate.signature m.type)
      (ClassRole.signature_mem_signatures _ _) rfl (.var List.mem_cons_self)

end MemberCode

/-- A nested member without defects whose type is the name of a class without defects in a catalog.
All that it calls when it is built, released and replaced are lifecycle functions of this class,
which are declared in the header and defined in the source of the class. The calls fit their
signatures: what is stored in the field, released and copied has the types of the functions. -/
theorem nested_calls_fit_lifecycle (k : Catalog) {m : Member} {className : String}
    (hkind : m.kind = .nested) (hm : m.defect? className = none) :
    ∀ d ∈ k.classes, d.defect? = none → m.typeName? = some d.name →
      (Fragment.callees (m.code className).construct =
          [ClassRole.constructor.functionName d.name] ∧
        Fragment.callees (m.code className).destruct =
          [ClassRole.destructor.functionName d.name] ∧
        Fragment.callees (m.code className).setterBody =
          [ClassRole.duplicate.functionName d.name, ClassRole.destructor.functionName d.name]) ∧
      (∀ (r : ClassRole) (o : Options),
        ((HeaderFile.emitted o d).cause? = none →
          asPrototype o.exportMacro (r.signature d.name).render ∈
            Reader.prototypes.lines (HeaderFile.emitted o d).fragments) ∧
        ((SourceFile.emitted o d).cause? = none →
          (r.signature d.name).render ∈
            Reader.definitions.lines (SourceFile.emitted o d).fragments)) ∧
      ∃ stored given, (m.code className).UsesLifecycle d.name stored given := by
  intro d _ hd htypeName
  have hname := ((Member.defect?_eq_none_iff m className).mp hm).1
  have htype := ((Class.defects_eq_nil_iff d).mp ((Class.defect?_eq_none_iff d).mp hd)).1
  have hcode : (m.code className).type = d.name := by
    rw [Member.code, Member.cType?_of_isIdentifier hkind htypeName htype, Option.getD_some]
  rw [← hcode] at htype
  have hconstruct := MemberCode.callees_construct hkind hname htype
  have hdestruct := MemberCode.callees_destruct hkind hname htype
  have hset := MemberCode.callees_setterBody hkind hname htype
  have huses := MemberCode.usesLifecycle hkind htype
  rw [hcode] at hconstruct hdestruct hset huses
  exact ⟨⟨hconstruct, hdestruct, hset⟩, fun r o => r.mem_files o hd, _, _, huses⟩

/-- A class that others may own objects of. -/
def ownedClass : Class :=
  ⟨"Bar", [{ name := "A", kind := .list }]⟩

/-- A catalog with a class that owns an object of the class behind it. -/
def owningCatalog : Catalog :=
  ⟨[⟨"Foo", [innerMember "Bar"]⟩, ownedClass]⟩

/-- The object of `Bar` that `Foo` owns is copied by the copy constructor in the header of `Bar`. -/
theorem owningCatalog_calls_fit :
    (innerMember "Bar").kind = .nested ∧ (innerMember "Bar").defect? "Foo" = none ∧
    ownedClass ∈ owningCatalog.classes ∧ ownedClass.defect? = none ∧
    (innerMember "Bar").typeName? = some ownedClass.name ∧
    Fragment.callees ((innerMember "Bar").code "Foo").setterBody = ["Bar_dup", "Bar_delete"] ∧
    "EXPORT_SPEC Bar *Bar_dup(const Bar *q);" ∈
      Reader.prototypes.lines (HeaderFile.emitted {} ownedClass).fragments ∧
    ((innerMember "Bar").code "Foo").UsesLifecycle "Bar" "Bar *" "const Bar *" := by
  have hm : (innerMember "Bar").defect? "Foo" = none := by decide +kernel
  have hmem : ownedClass ∈ owningCatalog.classes := List.mem_cons_of_mem _ List.mem_cons_self
  have hd : ownedClass.defect? = none := by decide +kernel
  obtain ⟨⟨-, -, hset⟩, hfiles, stored, given, huses⟩ :=
    nested_calls_fit_lifecycle owningCatalog rfl hm ownedClass hmem hd rfl
  have hdeclared := (hfiles .duplicate {}).1 ((HeaderFile.cause?_emitted rfl _).trans (hd ▸ rfl))
  have hnames : [ClassRole.duplicate.functionName "Bar", ClassRole.destructor.functionName "Bar"] =
      ["Bar_dup", "Bar_delete"] := by decide +kernel
  have hprototype : asPrototype ({} : Options).exportMacro
      (ClassRole.duplicate.signature "Bar").render = "EXPORT_SPEC Bar *Bar_dup(const Bar *q);" := by
    decide +kernel
  have hsignature : ClassRole.duplicate.signature "Bar" =
      ⟨"Bar *", "Bar_dup", [⟨"const Bar *", "q"⟩]⟩ := by decide +kernel
  have htypes := huses.duplicate_signature.symm.trans hsignature
  simp only [Signature.mk.injEq, List.cons.injEq, Parameter.mk.injEq, and_true] at htypes
  obtain ⟨rfl, -, rfl⟩ := htypes
  exact ⟨rfl, hm, hmem, hd, rfl, hset.trans hnames, hprototype ▸ hdeclared, huses⟩

end OpaqueC
