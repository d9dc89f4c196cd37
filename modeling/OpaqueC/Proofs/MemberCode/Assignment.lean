import OpaqueC.Proofs.MemberCode.Calls
import OpaqueC.Proofs.Naming.Identifiers
import OpaqueC.Proofs.Naming.Suffixes

/-!
# The line that copies a member

The assignment operator copies each member by one line, which gives what the getter of the member
reads to the setter of the member. The line is made from the names of the two accessors alone, while
every kind of member writes their signatures on its own. For every kind the getter gives the type
that the setter takes, so the line is well-typed.

## Main results

* `Realization.getter_and_setter`: the signatures of getter and setter, for every kind;
* `MemberCode.filter_functions`: an accessor is found by its name among those of the member;
* `MemberCode.callees_assign`: the line calls the setter and the getter;
* `assignment_fits_accessors`: the line is a well-typed call of accessors of the member.
-/

namespace OpaqueC

/-- The getter reads from the object, and the setter stores a value of the type that the getter
gives, whatever the kind of the member is. -/
theorem Realization.getter_and_setter (k : Kind) (s : Slot) :
    ∃ (type argument : String) (reading storing : List Fragment),
      (ofKind k s).accessors.filter (·.role = .get) =
        [{ role := .get, result := type, parameters := [s.constSelf], body := reading }] ∧
      (ofKind k s).accessors.filter (·.role = .set) =
        [{ role := .set, result := "int", parameters := [s.self, ⟨type, argument⟩]
           body := storing }] := by
  cases k <;> exact ⟨_, _, _, _, rfl, rfl⟩

/-- The accessors of one member have different names. -/
theorem Slot.accessorName_inj (s : Slot) {r r' : AccessorRole} :
    s.accessorName r = s.accessorName r' ↔ r = r' := by
  rw [accessorName, accessorName, AccessorRole.functionName_eq, AccessorRole.functionName_eq,
    String.append_right_inj, AccessorRole.suffix_eq_iff]
  constructor
  · -- Only accessors of different members can meet.
    rintro (⟨hrole, -⟩ | hmeets | hmeets)
    · exact hrole
    all_goals exact absurd rfl (Class.name_ne_of_meetsGetter hmeets)
  · exact fun hrole => .inl ⟨hrole, rfl⟩

namespace MemberCode

/-- The functions of a member that have the name of an accessor are those with its role. -/
theorem filter_functions (m : MemberCode) (r : AccessorRole) :
    m.functions.filter (·.name = m.slot.accessorName r) =
      (m.realization.accessors.filter (·.role = r)).map m.slot.define := by
  rw [functions, List.filter_map]
  congr 1
  apply List.filter_congr
  intro a _
  simp only [Function.comp_apply, Slot.name_define, m.slot.accessorName_inj]

/-- The line that copies a member calls its setter and its getter. -/
theorem callees_assign {m : MemberCode} (hclass : isIdentifier m.className = true)
    (hmember : isIdentifier m.member.name = true) :
    Fragment.callees m.assign = [m.slot.accessorName .set, m.slot.accessorName .get] := by
  have hset : isIdentifier (m.slot.accessorName .set) = true :=
    AccessorRole.isIdentifier_functionName .set hclass hmember
  have hget : isIdentifier (m.slot.accessorName .get) = true :=
    AccessorRole.isIdentifier_functionName .get hclass hmember
  have hline : Fragment.allCodeLines m.assign =
      ["ok = ok && " ++ m.slot.accessorName .set ++ "(" ++
        ("p, " ++ m.slot.accessorName .get ++ "(" ++ "q));")] := by
    rw [assign, wrap, Fragment.allCodeLines_guarded]
    simp only [Fragment.allCodeLines, Fragment.codeLines, List.append_nil, String.append_assoc]
    rfl
  rw [Fragment.callees, hline, List.flatMap_singleton,
    Text.callees_call (by decide) (by decide) hset, Text.callees_call (by decide) (by decide) hget,
    Text.callees_eq_nil (by decide)]

end MemberCode

/-- To give a setter what a getter reads is well-typed inside the assignment operator, if the setter
takes what the getter gives. -/
theorem hasType_copy {functions : List Signature} {className type argument get set : String}
    (hget : { result := type, name := get
              parameters := [⟨constClassPointer className, "p"⟩] } ∈ functions)
    (hset : { result := "int", name := set
              parameters := [⟨classPointer className, "p"⟩, ⟨type, argument⟩] } ∈ functions) :
    HasType functions (ClassRole.assign.signature className).parameters
      (set ++ "(p, " ++ get ++ "(q))") "int" := by
  have hread : HasType functions (ClassRole.assign.signature className).parameters
      (get ++ "(" ++ ", ".intercalate ["q"] ++ ")") type :=
    .call hget (.cons (.var (List.mem_cons_of_mem _ List.mem_cons_self)) .nil)
  -- The call of the getter is the second argument of the setter.
  have hstore := HasType.call hset (.cons (.var List.mem_cons_self) (.cons hread .nil))
  have htext : set ++ "(p, " ++ get ++ "(q))" =
      set ++ "(" ++ ", ".intercalate ["p", get ++ "(" ++ ", ".intercalate ["q"] ++ ")"] ++ ")" := by
    simp only [String.intercalate_cons_cons, String.intercalate_singleton, String.append_assoc]
    rfl
  rw [htext]
  exact hstore

/-- The line that copies a member of a class without defects names two accessors of the member, each
of which the member has once and in both files inside the guard of the line. The getter takes the
object for reading, the setter takes the object and a value of the type that the getter gives. So
the line is a well-typed call, with the parameters of the assignment operator. -/
theorem assignment_fits_accessors {c : Class} (hc : c.defect? = none) {m : Member}
    (hm : m ∈ c.members) :
    ∃ (getter setter : FunctionDef) (type argument : String),
      (m.code c.name).assign = Fragment.guarded m.guard?
        [.line ("ok = ok && " ++ (setter.name ++ "(p, " ++ getter.name ++ "(q))") ++ ";")] ∧
      Fragment.callees (m.code c.name).assign = [setter.name, getter.name] ∧
      (m.code c.name).functions.filter (·.name = getter.name) = [getter] ∧
      (m.code c.name).functions.filter (·.name = setter.name) = [setter] ∧
      (m.code c.name).definitions = Fragment.guarded m.guard?
        ([Fragment.blank].intercalate ((m.code c.name).functions.map (·.fragments))) ∧
      (∀ exportMacro, (m.code c.name).prototypes exportMacro = Fragment.guarded m.guard?
        ((m.code c.name).functions.flatMap (·.prototype exportMacro))) ∧
      getter.signature = { result := type, name := getter.name
                           parameters := [⟨constClassPointer c.name, "p"⟩] } ∧
      setter.signature = { result := "int", name := setter.name
                           parameters := [⟨classPointer c.name, "p"⟩, ⟨type, argument⟩] } ∧
      HasType ((m.code c.name).functions.map (·.signature))
        (ClassRole.assign.signature c.name).parameters
        (setter.name ++ "(p, " ++ getter.name ++ "(q))") "int" := by
  have hclass := ((Class.defects_eq_nil_iff c).mp ((Class.defect?_eq_none_iff c).mp hc)).1
  have hmember := ((Member.defect?_eq_none_iff m c.name).mp (Class.member_valid hc hm)).1
  obtain ⟨type, argument, reading, storing, hget, hset⟩ :=
    Realization.getter_and_setter m.kind (m.code c.name).slot
  let getter : FunctionDef := (m.code c.name).slot.define
    { role := .get, result := type
      parameters := [(m.code c.name).slot.constSelf], body := reading }
  let setter : FunctionDef := (m.code c.name).slot.define
    { role := .set, result := "int"
      parameters := [(m.code c.name).slot.self, ⟨type, argument⟩], body := storing }
  have hgetter : (m.code c.name).functions.filter (·.name = getter.name) = [getter] :=
    ((m.code c.name).filter_functions .get).trans (congrArg (List.map _) hget)
  have hsetter : (m.code c.name).functions.filter (·.name = setter.name) = [setter] :=
    ((m.code c.name).filter_functions .set).trans (congrArg (List.map _) hset)
  refine ⟨getter, setter, type, argument, ?_, MemberCode.callees_assign hclass hmember, hgetter,
    hsetter, rfl, fun _ => rfl, rfl, rfl, ?_⟩
  · rw [MemberCode.assign]
    simp only [String.append_assoc]
    rfl
  · exact hasType_copy
      (List.mem_map_of_mem (List.mem_of_mem_filter (hgetter ▸ List.mem_singleton_self getter)))
      (List.mem_map_of_mem (List.mem_of_mem_filter (hsetter ▸ List.mem_singleton_self setter)))

/-- A buffer under a test. -/
def addressMember : Member :=
  { name := "Addr", kind := .buffer, typeName? := some "struct sockaddr_storage"
    guard? := some "#ifdef INET6" }

/-- A class whose only member is a buffer. -/
def addressClass : Class :=
  ⟨"Foo", [addressMember]⟩

/-- The buffer is copied through a pointer, which the getter gives and the setter takes. -/
theorem addressClass_assignment_fits :
    addressClass.defect? = none ∧ addressMember ∈ addressClass.members ∧
    Fragment.callees (addressMember.code "Foo").assign = ["Foo_set_Addr", "Foo_get_Addr"] ∧
    HasType ((addressMember.code "Foo").functions.map (·.signature))
      [⟨"Foo *", "p"⟩, ⟨"const Foo *", "q"⟩] "Foo_set_Addr(p, Foo_get_Addr(q))" "int" := by
  have hc : addressClass.defect? = none := by decide +kernel
  have hm : addressMember ∈ addressClass.members := List.mem_cons_self
  obtain ⟨getter, setter, _, _, -, hcallees, -, -, -, -, -, -, htype⟩ :=
    assignment_fits_accessors hc hm
  have hnames : Fragment.callees (addressMember.code "Foo").assign =
      ["Foo_set_Addr", "Foo_get_Addr"] := by decide +kernel
  obtain ⟨hset, hget⟩ : setter.name = "Foo_set_Addr" ∧ getter.name = "Foo_get_Addr" := by
    simpa using hcallees.symm.trans hnames
  rw [hset, hget] at htype
  exact ⟨hc, hm, hnames, htype⟩

end OpaqueC
