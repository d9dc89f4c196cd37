import Mathlib.Data.List.Forall2
import OpaqueC.Proofs.Emission.Limit

/-!
# What the files of a class do not depend on

The header declares an interface: it shows names, kinds, types, guards and the headers that declare
the types, but no initial value and no build configuration. The source defines the implementation:
it includes the header of its own class only, so that neither the headers of the members nor the
way in which functions are exported matter to it. And a kind disregards what it has no use for.

Each of the files is therefore the same for a class and for a reduced form of it, in which all that
the file does not show is removed from the members. Classes with the same reduced form have the
same file, whatever draft it is written to.

## Main definitions

* `Member.interface`, `Member.implementation`: what the header and the source read of a member;
* `Member.EqButInitial`, `Member.EqButHeader`, `Member.EqButDisregarded`: members that differ
  in some of their details only;
* `Class.Alike`: classes whose members differ in this way, one by one.

## Main results

* `HeaderFile.steps_interface`, `SourceFile.steps_implementation`: the files of the reduced forms;
* `files_see_only_their_part`: the details that the files do not depend on.
-/

namespace OpaqueC

/-! ### Changing the members of a class -/

/-- A class with every member changed in the same way. -/
def Class.mapMembers (f : Member → Member) (c : Class) : Class :=
  { c with members := c.members.map f }

/-- Two members have the same defect if the check reads the same of them. -/
theorem Member.defect?_congr (m m' : Member) (hname : m'.name = m.name) (hkind : m'.kind = m.kind)
    (htype : m'.cType? = m.cType?) (hguard : m'.guard? = m.guard?) (className : String) :
    m'.defect? className = m.defect? className := by
  rw [defect?, defect?, hname, hkind, htype, hguard]

/-- A type that is resolved already is resolved again to the same. -/
theorem Member.cType?_of_resolved {m m' : Member} (hkind : m'.kind = m.kind)
    (htype : m'.typeName? = m.cType?) : m'.cType? = m.cType? := by
  rw [cType?, hkind, htype, cType?]
  cases m.kind.implicitType? with
  | some type => rfl
  | none =>
    -- The declared type passed the test for blank types before, so it passes it again.
    simp [Option.filter_filter]

namespace Class

variable {f : Member → Member} (hname : ∀ m, (f m).name = m.name)
  (hdefect : ∀ m className, (f m).defect? className = m.defect? className)

include hname hdefect in
theorem memberDefects_map (className : String) (seen : List String) (members : List Member) :
    memberDefects className seen (members.map f) = memberDefects className seen members := by
  induction members generalizing seen with
  | nil => rfl
  | cons m ms ih => rw [List.map_cons, memberDefects, memberDefects, hname, hdefect, ih]

include hname hdefect in
/-- A change of the members that keeps their names and defects keeps the defects of the class. -/
theorem defects_mapMembers (c : Class) : (c.mapMembers f).defects = c.defects := by
  rw [defects, defects, mapMembers, memberDefects_map hname hdefect, List.isEmpty_map]

include hname hdefect in
theorem defect?_mapMembers (c : Class) : (c.mapMembers f).defect? = c.defect? := by
  rw [defect?, defect?, defects_mapMembers hname hdefect]

end Class

/-! ### The interface -/

/-- What the header of a class reads of a member: all but the initial value, with the type and the
required header resolved. -/
def Member.interface (m : Member) : Member :=
  { m with typeName? := m.cType?, header? := m.requiredHeader?, initial? := none }

/-- A class reduced to what its header reads. -/
def Class.interface (c : Class) : Class :=
  c.mapMembers Member.interface

namespace Member

@[simp]
theorem cType?_interface (m : Member) : m.interface.cType? = m.cType? :=
  cType?_of_resolved rfl rfl

@[simp]
theorem requiredHeader?_interface (m : Member) :
    m.interface.requiredHeader? = m.requiredHeader? := by
  rw [requiredHeader?, interface, requiredHeader?, Option.or_assoc, Option.or_self]

theorem defect?_interface (m : Member) (className : String) :
    m.interface.defect? className = m.defect? className :=
  defect?_congr m m.interface rfl rfl m.cType?_interface rfl className

end Member

theorem Class.defect?_interface (c : Class) : c.interface.defect? = c.defect? :=
  defect?_mapMembers (f := Member.interface) (fun _ => rfl) Member.defect?_interface c

/-- No accessor reads the initial value. -/
theorem Realization.accessors_ofKind_initial (k : Kind) (s : Slot) (initial? : Option String) :
    (ofKind k { s with initial? }).accessors = (ofKind k s).accessors := by
  cases k <;> rfl

/-- The header declares the same accessors for a member and for its interface. -/
theorem MemberCode.prototypes_interface (m : Member) (className exportMacro : String) :
    (m.interface.code className).prototypes exportMacro =
      (m.code className).prototypes exportMacro := by
  -- All that the slot has lost is the initial value, which no accessor reads.
  have hslot : (m.interface.code className).slot =
      { (m.code className).slot with initial? := none } := by
    rw [Member.code, m.cType?_interface]
    rfl
  have hfunctions : (m.interface.code className).functions = (m.code className).functions := by
    rw [functions, realization, hslot, Realization.accessors_ofKind_initial]
    rfl
  rw [prototypes, hfunctions]
  rfl

namespace HeaderFile

theorem memberHeaders_interface (c : Class) : memberHeaders c.interface = memberHeaders c := by
  rw [memberHeaders, Class.interface, Class.mapMembers, List.filterMap_map, memberHeaders]
  simp only [Function.comp_def, Member.requiredHeader?_interface]

theorem sharedGuard?_interface (c : Class) (header : String) :
    sharedGuard? c.interface header = sharedGuard? c header := by
  -- The same members need the header, and they keep their guards.
  have hguards : ((c.members.map Member.interface).filter
        fun m => m.requiredHeader? == some header).map (fun m => m.guard?.map Text.trim) =
      (c.members.filter fun m => m.requiredHeader? == some header).map
        fun m => m.guard?.map Text.trim := by
    rw [List.filter_map, List.map_map]
    simp only [Function.comp_def, Member.requiredHeader?_interface]
    rfl
  rw [sharedGuard?, Class.interface, Class.mapMembers, hguards, sharedGuard?]

theorem memberIncludes_interface (o : Options) (c : Class) :
    memberIncludes o c.interface = memberIncludes o c := by
  have hinclude : memberInclude c.interface = memberInclude c := by
    funext header
    rw [memberInclude, sharedGuard?_interface, memberInclude]
  rw [memberIncludes, memberHeaders_interface, hinclude, memberIncludes]

theorem declarations_interface (o : Options) (c : Class) :
    declarations o c.name (c.interface.members.map (·.code c.name)) =
      declarations o c.name (c.members.map (·.code c.name)) := by
  rw [declarations, declarations, Class.interface, Class.mapMembers]
  simp only [List.flatMap_map, MemberCode.prototypes_interface]

/-- The header of a class is the header of its interface. -/
theorem steps_interface (o : Options) (c : Class) : steps o c.interface = steps o c := by
  -- Without a defect the members are read for the includes and for the declarations. With one
  -- both classes are given up at the same place.
  have hdefect := c.defect?_interface
  cases hc : c.defect? with
  | none =>
    rw [hc] at hdefect
    rw [steps_of_valid o hdefect, memberIncludes_interface, steps_of_valid o hc]
    exact congrArg
      (fun fragments => preamble o c.name ++ (memberIncludes o c ++ [.write fragments]))
      (declarations_interface o c)
  | some defect =>
    rw [hc] at hdefect
    rw [steps, Class.memberCodes_of_defect hdefect, steps, Class.memberCodes_of_defect hc]
    rfl

end HeaderFile

/-! ### The implementation -/

/-- Whether members of a kind have an initial value. -/
def Kind.hasInitial : Kind → Bool
  | scalar | buffer => true
  | nested | list | string | domString => false

/-- What the source of a class reads of a member: all but the header, with the type resolved, and
the initial value only if the kind has one. -/
def Member.implementation (m : Member) : Member :=
  { m with
    typeName? := m.cType?
    header? := none
    initial? := if m.kind.hasInitial then m.initial? else none }

/-- A class reduced to what its source reads. -/
def Class.implementation (c : Class) : Class :=
  c.mapMembers Member.implementation

@[simp]
theorem Member.cType?_implementation (m : Member) : m.implementation.cType? = m.cType? :=
  cType?_of_resolved rfl rfl

theorem Member.defect?_implementation (m : Member) (className : String) :
    m.implementation.defect? className = m.defect? className :=
  defect?_congr m m.implementation rfl rfl m.cType?_implementation rfl className

theorem Class.defect?_implementation (c : Class) : c.implementation.defect? = c.defect? :=
  defect?_mapMembers (f := Member.implementation) (fun _ => rfl) Member.defect?_implementation c

/-- Kinds without an initial value do not read one. -/
theorem Realization.ofKind_initial (k : Kind) (s : Slot) :
    ofKind k { s with initial? := if k.hasInitial then s.initial? else none } = ofKind k s := by
  cases k <;> rfl

namespace MemberCode

variable (m : Member) (className : String)

theorem realization_implementation :
    (m.implementation.code className).realization = (m.code className).realization := by
  have hslot : (m.implementation.code className).slot =
      { (m.code className).slot with
        initial? := if m.kind.hasInitial then (m.code className).slot.initial? else none } := by
    rw [Member.code, m.cType?_implementation]
    rfl
  rw [realization, hslot]
  exact Realization.ofKind_initial m.kind (m.code className).slot

theorem field_implementation :
    (m.implementation.code className).field = (m.code className).field := by
  rw [field, realization_implementation]
  rfl

theorem construct_implementation :
    (m.implementation.code className).construct = (m.code className).construct := by
  rw [construct, realization_implementation]
  rfl

theorem destruct_implementation :
    (m.implementation.code className).destruct = (m.code className).destruct := by
  rw [destruct, realization_implementation]
  rfl

theorem assign_implementation :
    (m.implementation.code className).assign = (m.code className).assign :=
  rfl

theorem definitions_implementation :
    (m.implementation.code className).definitions = (m.code className).definitions := by
  rw [definitions, functions, realization_implementation]
  rfl

end MemberCode

namespace SourceFile

theorem definitions_implementation (c : Class) :
    definitions c.name (c.implementation.members.map (·.code c.name)) =
      definitions c.name (c.members.map (·.code c.name)) := by
  rw [Class.implementation, Class.mapMembers]
  -- The destructor takes the members in reverse, the other functions take them in order.
  simp only [definitions, lifecycle, constructor, destructor, assignment, ← List.map_reverse,
    List.flatMap_map, MemberCode.field_implementation, MemberCode.construct_implementation,
    MemberCode.destruct_implementation, MemberCode.assign_implementation,
    MemberCode.definitions_implementation]

/-- The source of a class is the source of its implementation. -/
theorem steps_implementation (o : Options) (c : Class) :
    steps o c.implementation = steps o c := by
  have hdefect := c.defect?_implementation
  cases hc : c.defect? with
  | none =>
    rw [hc] at hdefect
    rw [steps_of_valid o hdefect, steps_of_valid o hc]
    exact congrArg (fun fragments => preamble o c ++ [.write fragments])
      (definitions_implementation c)
  | some defect =>
    rw [hc] at hdefect
    rw [steps, Class.memberCodes_of_defect hdefect, steps, Class.memberCodes_of_defect hc]
    rfl

end SourceFile

/-! ### Classes that differ in some details -/

namespace Member

/-- Two members that are the same but for the initial value. -/
def EqButInitial (m m' : Member) : Prop :=
  ∃ initial?, m' = { m with initial? }

/-- Two members that are the same but for the declared header. -/
def EqButHeader (m m' : Member) : Prop :=
  ∃ header?, m' = { m with header? }

/-- Two members that are the same but for what their kind disregards: the type name of lists,
strings and DOM strings, and the initial value of these and of nested objects. -/
def EqButDisregarded (m m' : Member) : Prop :=
  ∃ typeName? initial?, m' = { m with typeName?, initial? } ∧
    (m.kind ∈ [.nested, .scalar, .buffer] → typeName? = m.typeName?) ∧
    (m.kind ∈ [.scalar, .buffer] → initial? = m.initial?)

variable {m m' : Member}

theorem EqButInitial.interface_eq (h : m.EqButInitial m') : m.interface = m'.interface := by
  obtain ⟨initial?, rfl⟩ := h
  rfl

theorem EqButHeader.implementation_eq (h : m.EqButHeader m') :
    m.implementation = m'.implementation := by
  obtain ⟨header?, rfl⟩ := h
  rfl

/-- A type name that a kind disregards does not change the type. -/
theorem EqButDisregarded.cType?_eq (h : m.EqButDisregarded m') : m.cType? = m'.cType? := by
  obtain ⟨typeName?, initial?, rfl, htype, -⟩ := h
  rw [cType?, cType?]
  cases hk : m.kind with
  | nested | scalar | buffer => rw [htype (by simp [hk])]
  | list | string | domString => rfl

theorem EqButDisregarded.interface_eq (h : m.EqButDisregarded m') :
    m.interface = m'.interface := by
  have htype := h.cType?_eq
  obtain ⟨typeName?, initial?, rfl, -, -⟩ := h
  rw [interface, interface, htype]
  rfl

theorem EqButDisregarded.implementation_eq (h : m.EqButDisregarded m') :
    m.implementation = m'.implementation := by
  have htype := h.cType?_eq
  obtain ⟨typeName?, initial?, rfl, -, hinitial⟩ := h
  rw [implementation, implementation, htype]
  -- The kinds that have an initial value agree on it, and the others have none left.
  cases hk : m.kind with
  | scalar | buffer => rw [hinitial (by simp [hk])]
  | nested | list | string | domString => simp [Kind.hasInitial]

end Member

/-- Two classes of one name whose members are related one by one. -/
structure Class.Alike (R : Member → Member → Prop) (c c' : Class) : Prop where
  /-- The names are the same. -/
  name_eq : c.name = c'.name
  /-- The members are related in order, and there are as many of them. -/
  members : List.Forall₂ R c.members c'.members

/-- Classes whose members are reduced to the same are reduced to the same themselves. -/
theorem Class.Alike.mapMembers_eq {R : Member → Member → Prop} {f : Member → Member}
    {c c' : Class} (h : c.Alike R c') (hf : ∀ m m', R m m' → f m = f m') :
    c.mapMembers f = c'.mapMembers f := by
  have hmembers : List.Forall₂ (· = ·) (c.members.map f) (c'.members.map f) := by
    rw [List.forall₂_map_left_iff, List.forall₂_map_right_iff]
    exact h.members.imp hf
  rw [List.forall₂_eq_eq_eq] at hmembers
  rw [mapMembers, mapMembers, hmembers, h.name_eq]

/-! ### Files that agree -/

namespace FileRole

/-- A file of a class as a file of its own. -/
def render : FileRole → Options → Class → Except RunError RenderedFile
  | header => renderHeader
  | source => renderSource

/-- A file of one class under some options and the same file of another class under other options
have the same outcome and the same text. -/
structure Agree (role : FileRole) (o o' : Options) (c c' : Class) : Prop where
  /-- They are the same at the end of every draft, with its own limit of includes. -/
  emit_eq : ∀ d, role.emit o c d = role.emit o' c' d
  /-- They are the same as files of their own, with the limit of the options. -/
  render_eq : role.render o c = role.render o' c'

variable {role : FileRole} {o o' : Options} {c c' : Class}

/-- Files that are described by the same steps agree. -/
theorem Agree.of_steps (hname : c.name = c'.name) (hlimit : o.includeLimit? = o'.includeLimit?)
    (hsteps : role.steps o c = role.steps o' c') : role.Agree o o' c c' := by
  -- Apart from the steps, a file of its own depends on the name and on the limit of includes.
  refine ⟨fun d => by rw [emit, emit, hname, hsteps], ?_⟩
  have hrender : ∀ path className, OpaqueC.render path className o (role.steps o c) =
      OpaqueC.render path className o' (role.steps o' c') := by
    intro path className
    rw [hsteps, OpaqueC.render, OpaqueC.render, hlimit]
  cases role with
  | header =>
    rw [render, renderHeader, renderHeader, Class.headerFile, Class.headerFile, hname]
    exact hrender _ _
  | source =>
    rw [render, renderSource, renderSource, Class.sourceFile, Class.sourceFile, hname]
    exact hrender _ _

/-- The headers of classes with the same interface agree. -/
theorem Agree.header_of_interface (hname : c.name = c'.name)
    (h : c.interface = c'.interface) (o : Options) : Agree .header o o c c' := by
  refine of_steps hname rfl ?_
  rw [steps, ← HeaderFile.steps_interface o c, h, HeaderFile.steps_interface]

/-- The sources of classes with the same implementation agree. -/
theorem Agree.source_of_implementation (hname : c.name = c'.name)
    (h : c.implementation = c'.implementation) (o : Options) : Agree .source o o c c' := by
  refine of_steps hname rfl ?_
  rw [steps, ← SourceFile.steps_implementation o c, h, SourceFile.steps_implementation]

end FileRole

/-- What the files of a class do not depend on. Initial values and the build configuration can
change without a trace in the header. The headers of the members, the global header and the export
macro can change without a trace in the source. What the kinds of the members disregard can change
without a trace in the check of the class, in the header or in the source. -/
theorem files_see_only_their_part (c c' : Class) (o : Options) :
    (c.Alike Member.EqButInitial c' →
      ∀ configHeader?, FileRole.header.Agree o { o with configHeader? } c c') ∧
    (c.Alike Member.EqButHeader c' →
      ∀ exportMacro globalHeader?,
        FileRole.source.Agree o { o with exportMacro, globalHeader? } c c') ∧
    (c.Alike Member.EqButDisregarded c' →
      c.defect? = c'.defect? ∧ ∀ role : FileRole, role.Agree o o c c') := by
  refine ⟨fun h configHeader? => ?_, fun h exportMacro globalHeader? => ?_, fun h => ?_⟩
  · have hinterface : c.interface = c'.interface := h.mapMembers_eq fun _ _ => (·.interface_eq)
    have hheader := FileRole.Agree.header_of_interface h.name_eq hinterface o
    -- The options of the second class read the same to the header.
    exact ⟨hheader.emit_eq, hheader.render_eq⟩
  · have himplementation : c.implementation = c'.implementation :=
      h.mapMembers_eq fun _ _ => (·.implementation_eq)
    have hsource := FileRole.Agree.source_of_implementation h.name_eq himplementation o
    exact ⟨hsource.emit_eq, hsource.render_eq⟩
  · have hinterface : c.interface = c'.interface := h.mapMembers_eq fun _ _ => (·.interface_eq)
    have himplementation : c.implementation = c'.implementation :=
      h.mapMembers_eq fun _ _ => (·.implementation_eq)
    refine ⟨?_, fun role => ?_⟩
    · rw [← c.defect?_interface, hinterface, c'.defect?_interface]
    · cases role with
      | header => exact .header_of_interface h.name_eq hinterface o
      | source => exact .source_of_implementation h.name_eq himplementation o

/-- A class with a number, of which the initial value and the header are given, and with a string,
of which the disregarded type name is given. -/
def levelClass (initial header : String) (typeName? : Option String) : Class :=
  ⟨"Foo", [{ name := "Level", kind := .scalar, typeName? := some "level_t", header? := some header
             initial? := some initial },
    { name := "Label", kind := .string, typeName? }]⟩

/-- The header of `levelClass` does not depend on the initial value, the source does not depend on
the header of a member, and neither of them depends on the type name of the string. -/
theorem levelClass_files :
    (levelClass "5" "level.h" none).Alike Member.EqButInitial (levelClass "7" "level.h" none) ∧
    FileRole.header.Agree {} { configHeader? := none } (levelClass "5" "level.h" none)
      (levelClass "7" "level.h" none) ∧
    (levelClass "5" "level.h" none).Alike Member.EqButHeader (levelClass "5" "<time.h>" none) ∧
    FileRole.source.Agree {} { exportMacro := "", globalHeader? := none }
      (levelClass "5" "level.h" none) (levelClass "5" "<time.h>" none) ∧
    (levelClass "5" "level.h" none).Alike Member.EqButDisregarded
      (levelClass "5" "level.h" (some "char *")) ∧
    ∀ role : FileRole, role.Agree {} {} (levelClass "5" "level.h" none)
      (levelClass "5" "level.h" (some "char *")) := by
  have hinitial : (levelClass "5" "level.h" none).Alike Member.EqButInitial
      (levelClass "7" "level.h" none) := ⟨rfl, .cons ⟨_, rfl⟩ (.cons ⟨_, rfl⟩ .nil)⟩
  have hheader : (levelClass "5" "level.h" none).Alike Member.EqButHeader
      (levelClass "5" "<time.h>" none) := ⟨rfl, .cons ⟨_, rfl⟩ (.cons ⟨_, rfl⟩ .nil)⟩
  have hdisregarded : (levelClass "5" "level.h" none).Alike Member.EqButDisregarded
      (levelClass "5" "level.h" (some "char *")) := by
    refine ⟨rfl, .cons ⟨some "level_t", some "5", rfl, fun _ => rfl, fun _ => rfl⟩
      (.cons ⟨some "char *", none, rfl, ?_, fun _ => rfl⟩ .nil)⟩
    exact fun hkind => absurd hkind (by decide)
  obtain ⟨hfirst, -, -⟩ := files_see_only_their_part (levelClass "5" "level.h" none)
    (levelClass "7" "level.h" none) {}
  obtain ⟨-, hsecond, -⟩ := files_see_only_their_part (levelClass "5" "level.h" none)
    (levelClass "5" "<time.h>" none) {}
  obtain ⟨-, -, hthird⟩ := files_see_only_their_part (levelClass "5" "level.h" none)
    (levelClass "5" "level.h" (some "char *")) {}
  exact ⟨hinitial, hfirst hinitial none, hheader, hsecond hheader "" none, hdisregarded,
    (hthird hdisregarded).2⟩

end OpaqueC
