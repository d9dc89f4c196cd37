import OpaqueC.Proofs.Conditional.HeaderRegions
import OpaqueC.Proofs.Conditional.SourceRegions
import OpaqueC.Proofs.Interface.Reader

/-!
# Agreement of header and source

The header declares exactly the functions that the source defines, with the same signatures.
The functions of the class itself stand in different orders in the two files; those of the
members are in the same order, and each member has one group of functions in either file, inside
the same guard.

## Main definitions

* `asPrototype`: the line that declares a function;
* `SourceFile.functions`: the functions that the source of a class defines.

## Main results

* `SourceFile.definitions_emitted`, `HeaderFile.prototypes_emitted`: what is read off complete
  files;
* `prototypes_agree_with_definitions`: the agreement.
-/

namespace OpaqueC

/-- The line that declares a function with a signature. The export macro stands in front unless
it is empty. -/
def asPrototype (exportMacro signature : String) : String :=
  (if exportMacro.isEmpty then "" else exportMacro ++ " ") ++ signature ++ ";"

theorem Signature.lines_prototype (s : Signature) (exportMacro docText : String) :
    Reader.prototypes.lines (s.prototype exportMacro docText) =
      [asPrototype exportMacro s.render] :=
  rfl

theorem Signature.closed_prototype (s : Signature) (exportMacro docText : String) :
    Reader.prototypes.Closed (s.prototype exportMacro docText) := by
  intro f hf g
  rw [← Option.mem_some.mp hf]
  rfl

namespace FunctionDef

theorem lines_fragments (f : FunctionDef) :
    Reader.definitions.lines f.fragments = [f.signature.render] :=
  rfl

theorem lines_blank_fragments (f : FunctionDef) :
    Reader.definitions.lines (.blank :: f.fragments) = [f.signature.render] := by
  rw [Reader.lines_blank_cons, lines_fragments]

theorem closed_fragments (f : FunctionDef) : Reader.definitions.Closed f.fragments := by
  intro g hg h
  rw [← Option.mem_some.mp hg]
  rfl

theorem closed_blank_fragments (f : FunctionDef) :
    Reader.definitions.Closed (.blank :: f.fragments) :=
  (Reader.closed_concat [] Reader.definitions.blank_left).append f.closed_fragments

end FunctionDef

namespace MemberCode

variable (m : MemberCode)

/-- The signatures of the functions of a member. -/
def signatures : List String :=
  m.functions.map (·.signature.render)

/-- The prototypes of a member, without its guard. -/
def prototypeGroup (exportMacro : String) : List Fragment :=
  m.functions.flatMap (·.prototype exportMacro)

/-- The definitions of a member, without its guard. -/
def definitionGroup : List Fragment :=
  [Fragment.blank].intercalate (m.functions.map (·.fragments))

/-- The functions of a member are declared one by one. -/
theorem lines_prototypeGroup (exportMacro : String) :
    Reader.prototypes.lines (m.prototypeGroup exportMacro) =
      m.signatures.map (asPrototype exportMacro) := by
  rw [prototypeGroup, signatures, List.map_map]
  exact Reader.lines_flatMap_eq_map
    (fun f _ => f.signature.closed_prototype exportMacro f.name)
    fun f _ => f.signature.lines_prototype exportMacro f.name

theorem closed_prototypeGroup (exportMacro : String) :
    Reader.prototypes.Closed (m.prototypeGroup exportMacro) :=
  .flatMap fun f _ => f.signature.closed_prototype exportMacro f.name

/-- The functions of a member are defined one by one, with blank lines between them. -/
theorem lines_definitionGroup :
    Reader.definitions.lines m.definitionGroup = m.signatures := by
  rw [definitionGroup, signatures]
  cases m.functions with
  | nil => rfl
  | cons f fs =>
    have hrest : Reader.definitions.lines (fs.flatMap fun g => .blank :: g.fragments) =
        fs.map (·.signature.render) :=
      Reader.lines_flatMap_eq_map (fun g _ => g.closed_blank_fragments)
        fun g _ => g.lines_blank_fragments
    rw [List.map_cons, intercalate_singleton_cons, List.flatMap_map,
      f.closed_fragments.lines_append, hrest, FunctionDef.lines_fragments, List.map_cons]
    rfl

theorem closed_definitionGroup : Reader.definitions.Closed m.definitionGroup := by
  rw [definitionGroup]
  cases m.functions with
  | nil => exact Reader.closed_nil
  | cons f fs =>
    rw [List.map_cons, intercalate_singleton_cons, List.flatMap_map]
    exact f.closed_fragments.append (.flatMap fun g _ => g.closed_blank_fragments)

end MemberCode

theorem Reader.prototypes_read_of_plain {f : Fragment} (hf : f.isPlain = true) (g : Fragment) :
    Reader.prototypes.read f g = none := by
  cases f with
  | doc text => exact Bool.noConfusion hf
  | _ => rfl

theorem Reader.definitions_read_of_plain (f : Fragment) {g : Fragment} (hg : g.isPlain = true) :
    Reader.definitions.read f g = none := by
  cases g with
  | block opening inner closing? => exact Bool.noConfusion hg
  | _ => cases f <;> rfl

namespace SourceFile

/-- The functions that the source of a class defines: those of the class, then those of the
members. -/
def functions (className : String) (codes : List MemberCode) : List FunctionDef :=
  lifecycle className codes ++ codes.flatMap (·.functions)

/-- The roles of the functions of a class, in the order of the source. -/
def roles : List ClassRole :=
  [.constructor, .destructor, .assign, .duplicate]

/-- The source defines the functions that the header declares, in another order. -/
theorem roles_perm : ClassRole.all.Perm roles := by
  decide

/-- The signatures of the functions of a class do not depend on its members. -/
theorem lifecycle_signatures (className : String) (codes : List MemberCode) :
    (lifecycle className codes).map (·.signature.render) =
      roles.map fun r => (r.signature className).render :=
  rfl

/-- What stands in the definitions before the functions of the members. -/
def ownDefinitions (className : String) (codes : List MemberCode) : List Fragment :=
  structFragments (structTag className) (codes.flatMap MemberCode.field) ++
    (lifecycle className codes).flatMap fun f => .blank :: f.fragments

theorem lines_ownDefinitions (className : String) (codes : List MemberCode) :
    Reader.definitions.lines (ownDefinitions className codes) =
        (lifecycle className codes).map (·.signature.render) ∧
      Reader.definitions.Closed (ownDefinitions className codes) := by
  have hstruct : Reader.definitions.Closed
      (structFragments (structTag className) (codes.flatMap MemberCode.field)) := by
    intro f hf g
    rw [← Option.mem_some.mp hf]
    rfl
  have hclosed : ∀ f ∈ lifecycle className codes,
      Reader.definitions.Closed (.blank :: f.fragments) :=
    fun f _ => f.closed_blank_fragments
  refine ⟨?_, hstruct.append (.flatMap hclosed)⟩
  -- The struct ends in a block too, but its closing line is not a bare brace.
  rw [ownDefinitions, hstruct.lines_append,
    Reader.lines_flatMap_eq_map hclosed fun f _ => f.lines_blank_fragments]
  rfl

/-- A complete source is what stands before the functions of the members and one group of
definitions for each member, inside its guard. -/
theorem fragments_eq_groups {o : Options} {c : Class} (hc : c.defect? = none)
    (hdone : (emitted o c).cause? = none) :
    (emitted o c).fragments =
      ((preambleEmitted o c).fragments ++
          ownDefinitions c.name (c.members.map (·.code c.name))) ++
        c.members.flatMap fun m =>
          .blank :: Fragment.guarded m.guard? (m.code c.name).definitionGroup := by
  have hmembers : (c.members.map (·.code c.name)).flatMap (fun m => .blank :: m.definitions) =
      c.members.flatMap fun m =>
        .blank :: Fragment.guarded m.guard? (m.code c.name).definitionGroup :=
    List.flatMap_map ..
  rw [fragments_emitted hc hdone, definitions, hmembers, ← List.append_assoc]
  rfl

theorem lines_start (o : Options) (c : Class) (codes : List MemberCode) :
    Reader.definitions.lines
        ((preambleEmitted o c).fragments ++ ownDefinitions c.name codes) =
      (lifecycle c.name codes).map (·.signature.render) := by
  have hmeet : ∀ f ∈ (preambleEmitted o c).fragments.getLast?,
      ∀ g ∈ (ownDefinitions c.name codes).head?, Reader.definitions.read f g = none := by
    intro f _ g hg
    rw [← Option.mem_some.mp hg]
    exact Reader.definitions_read_of_plain f rfl
  rw [Reader.lines_append _ hmeet, (lines_ownDefinitions c.name codes).1,
    Reader.lines_eq_nil_of_right fun g hg f =>
      Reader.definitions_read_of_plain f (plain_preamble o c g hg).1,
    List.nil_append]

/-- The functions that a complete source defines, by their signatures. -/
theorem definitions_emitted {o : Options} {c : Class} (hc : c.defect? = none)
    (hdone : (emitted o c).cause? = none) :
    Reader.definitions.lines (emitted o c).fragments =
      (lifecycle c.name (c.members.map (·.code c.name))).map (·.signature.render) ++
        c.members.flatMap fun m => (m.code c.name).signatures := by
  have hread : ∀ m ∈ c.members, Reader.definitions.lines
      (.blank :: Fragment.guarded m.guard? (m.code c.name).definitionGroup) =
        (m.code c.name).signatures := by
    intro m _
    rw [Reader.lines_blank_cons, Reader.lines_guarded, MemberCode.lines_definitionGroup]
  have hclosed : ∀ m ∈ c.members, Reader.definitions.Closed
      (.blank :: Fragment.guarded m.guard? (m.code c.name).definitionGroup) :=
    fun m _ => (Reader.closed_concat [] Reader.definitions.blank_left).append
      (m.code c.name).closed_definitionGroup.guarded
  rw [fragments_eq_groups hc hdone, Reader.lines_append, lines_start,
    Reader.lines_flatMap hclosed, List.flatMap_congr hread]
  -- The functions of the members begin with a blank line, or there are none.
  intro f _ g hg
  cases hmembers : c.members with
  | nil => rw [hmembers] at hg; exact absurd hg (Option.not_mem_none g)
  | cons m ms =>
    rw [hmembers] at hg
    rw [← Option.mem_some.mp hg, Reader.definitions.blank_right]

end SourceFile

namespace HeaderFile

theorem isPlain_includes (o : Options) (c : Class) :
    ∀ f ∈ (preambleEmitted o c.name).fragments ++ (includesEmitted o c).fragments,
      f.isPlain = true := by
  have hmember : ∀ header, ∀ f ∈ (memberInclude c header).fragments, f.isPlain = true := by
    intro header
    unfold memberInclude Fragment.guarded
    split <;> simp [Fragment.isPlain]
  have hincludes : ∀ step ∈ memberIncludes o c, ∀ f ∈ step.fragments, f.isPlain = true := by
    intro step hstep
    rcases List.mem_append.mp hstep with hstep | hstep
    · obtain ⟨header, -, rfl⟩ := List.mem_map.mp hstep
      exact hmember header
    · split at hstep
      · exact absurd hstep List.not_mem_nil
      · rw [List.mem_singleton.mp hstep]
        simp [Fragment.isPlain]
  intro f hf
  rcases List.mem_append.mp hf with hf | hf
  · rcases List.mem_cons.mp (fragments_preambleEmitted o c.name ▸ hf) with rfl | hf
    · rfl
    · exact (plain_preambleInside o c.name f hf).1
  · exact Emitted.forall_mem_fragments_ofSteps hincludes _ f hf

/-- What stands in the header before the prototypes of the members. -/
def beforeMembers (o : Options) (c : Class) : List Fragment :=
  (preambleEmitted o c.name).fragments ++ (includesEmitted o c).fragments ++
    linkageOpening ++ typeDeclaration c.name ++
    lifecyclePrototypes o.exportMacro c.name ++ [.blank]

/-- What stands in the header behind the prototypes of the members. -/
def afterMembers (className : String) : List Fragment :=
  linkageClosing ++ [.directive ("#endif /* " ++ guardMacro className ++ " */")]

/-- A complete header has one group of prototypes for each member, inside its guard. -/
theorem fragments_eq_groups {o : Options} {c : Class} (hc : c.defect? = none)
    (hdone : (emitted o c).cause? = none) :
    (emitted o c).fragments = beforeMembers o c ++
      c.members.flatMap (fun m => Fragment.guarded m.guard?
        ((m.code c.name).prototypeGroup o.exportMacro) ++ [.blank]) ++
      afterMembers c.name := by
  rw [fragments_emitted hc hdone, declarations, List.flatMap_map, beforeMembers, afterMembers]
  simp only [List.append_assoc]
  rfl

theorem lines_beforeMembers (o : Options) (c : Class) :
    Reader.prototypes.lines (beforeMembers o c) =
        (ClassRole.all.map fun r => (r.signature c.name).render).map
          (asPrototype o.exportMacro) ∧
      Reader.prototypes.Closed (beforeMembers o c) := by
  have hdeclaration : ∀ f ∈ linkageOpening ++ typeDeclaration c.name, f.isPlain = true := by
    simp [linkageOpening, typeDeclaration, Fragment.isPlain]
  have hplain : ∀ f ∈ (preambleEmitted o c.name).fragments ++ (includesEmitted o c).fragments ++
      linkageOpening ++ typeDeclaration c.name, ∀ g, Reader.prototypes.read f g = none := by
    intro f hf
    apply Reader.prototypes_read_of_plain
    rw [List.append_assoc] at hf
    rcases List.mem_append.mp hf with hf | hf
    · exact isPlain_includes o c f hf
    · exact hdeclaration f hf
  have hclosed : Reader.prototypes.Closed (lifecyclePrototypes o.exportMacro c.name) :=
    .flatMap fun r _ => (r.signature c.name).closed_prototype o.exportMacro r.title
  have hread : Reader.prototypes.lines (lifecyclePrototypes o.exportMacro c.name) =
      (ClassRole.all.map fun r => (r.signature c.name).render).map
        (asPrototype o.exportMacro) :=
    rfl
  have hstart := Reader.closed_of_left hplain
  refine ⟨?_, Reader.closed_concat _ Reader.prototypes.blank_left⟩
  rw [beforeMembers, (hstart.append hclosed).lines_append, hstart.lines_append,
    Reader.lines_eq_nil_of_left hplain, hread, List.nil_append, Reader.lines_singleton,
    List.append_nil]

/-- The functions that a complete header declares. -/
theorem prototypes_emitted {o : Options} {c : Class} (hc : c.defect? = none)
    (hdone : (emitted o c).cause? = none) :
    Reader.prototypes.lines (emitted o c).fragments =
      ((ClassRole.all.map fun r => (r.signature c.name).render) ++
        c.members.flatMap fun m => (m.code c.name).signatures).map
          (asPrototype o.exportMacro) := by
  have hclosed : ∀ m ∈ c.members, Reader.prototypes.Closed
      (Fragment.guarded m.guard? ((m.code c.name).prototypeGroup o.exportMacro) ++ [.blank]) :=
    fun m _ => Reader.closed_concat _ Reader.prototypes.blank_left
  have hread : ∀ m ∈ c.members, Reader.prototypes.lines
      (Fragment.guarded m.guard? ((m.code c.name).prototypeGroup o.exportMacro) ++ [.blank]) =
        (m.code c.name).signatures.map (asPrototype o.exportMacro) := by
    intro m _
    have hgroup := (m.code c.name).closed_prototypeGroup o.exportMacro
    rw [hgroup.guarded.lines_append, Reader.lines_guarded, MemberCode.lines_prototypeGroup,
      Reader.lines_singleton, List.append_nil]
  obtain ⟨hstart, hstartClosed⟩ := lines_beforeMembers o c
  have hend : Reader.prototypes.lines (afterMembers c.name) = [] := rfl
  rw [fragments_eq_groups hc hdone, (hstartClosed.append (.flatMap hclosed)).lines_append,
    hstartClosed.lines_append, hstart, Reader.lines_flatMap hclosed, List.flatMap_congr hread,
    hend, List.append_nil, List.map_append, List.map_flatMap]

end HeaderFile

/-- The signatures that the header declares. -/
def Class.declaredSignatures (c : Class) : List String :=
  (ClassRole.all.map fun r => (r.signature c.name).render) ++
    c.members.flatMap fun m => (m.code c.name).signatures

/-- When both files of a class are complete, every prototype is the signature of a definition
behind the export macro and in front of a semicolon. The signatures declared are those defined,
as often as they are, and the ones of members in the same order. For each member, in the order
of declaration, either file has one group of functions: the two are inside the same guard, hold
no region of their own, and have the same functions in the same order. -/
theorem prototypes_agree_with_definitions (o : Options) (c : Class) (hc : c.defect? = none)
    (hheader : (HeaderFile.emitted o c).cause? = none)
    (hsource : (SourceFile.emitted o c).cause? = none) :
    Reader.prototypes.lines (HeaderFile.emitted o c).fragments =
      c.declaredSignatures.map (asPrototype o.exportMacro) ∧
    c.declaredSignatures.Perm (Reader.definitions.lines (SourceFile.emitted o c).fragments) ∧
    c.declaredSignatures.drop ClassRole.all.length =
      (Reader.definitions.lines (SourceFile.emitted o c).fragments).drop ClassRole.all.length ∧
    ∃ (before after before' : List Fragment) (declared defined : Member → List Fragment),
      (HeaderFile.emitted o c).fragments = before ++
        c.members.flatMap (fun m => Fragment.guarded m.guard? (declared m) ++ [.blank]) ++ after ∧
      (SourceFile.emitted o c).fragments = before' ++
        c.members.flatMap (fun m => .blank :: Fragment.guarded m.guard? (defined m)) ∧
      ∀ m ∈ c.members, Nested 0 (declared m) ∧ Nested 0 (defined m) ∧
        Reader.definitions.lines (defined m) = (m.code c.name).signatures ∧
        Reader.prototypes.lines (declared m) =
          (Reader.definitions.lines (defined m)).map (asPrototype o.exportMacro) := by
  have hdefined := SourceFile.definitions_emitted hc hsource
  rw [SourceFile.lifecycle_signatures] at hdefined
  refine ⟨HeaderFile.prototypes_emitted hc hheader, ?_, ?_, ?_⟩
  · rw [hdefined, Class.declaredSignatures]
    exact (SourceFile.roles_perm.map _).append_right _
  · rw [hdefined, Class.declaredSignatures, List.drop_left' (List.length_map _),
      List.drop_left' ((List.length_map _).trans SourceFile.roles_perm.length_eq.symm)]
  · refine ⟨_, _, _, _, _, HeaderFile.fragments_eq_groups hc hheader,
      SourceFile.fragments_eq_groups hc hsource, fun m _ => ⟨?_, ?_, ?_, ?_⟩⟩
    · exact (m.code c.name).nested_prototypes o.exportMacro
    · exact (m.code c.name).nested_definitions
    · exact (m.code c.name).lines_definitionGroup
    · rw [MemberCode.lines_definitionGroup, MemberCode.lines_prototypeGroup]

/-- A class with a member under a test. -/
def exportedClass : Class :=
  ⟨"Foo", [{ name := "A", kind := .scalar, typeName? := some "int", guard? := some " #if X" }]⟩

/-- Options with an export macro and room for every header. -/
def exportingOptions : Options :=
  { exportMacro := "API", includeLimit? := some 4 }

/-- The header of `exportedClass` declares the six functions that its source defines. -/
theorem exportedClass_prototypes :
    exportedClass.defect? = none ∧
    (HeaderFile.emitted exportingOptions exportedClass).cause? = none ∧
    (SourceFile.emitted exportingOptions exportedClass).cause? = none ∧
    Reader.prototypes.lines (HeaderFile.emitted exportingOptions exportedClass).fragments =
      ["API Foo *Foo_new(void);", "API void Foo_delete(Foo *p);",
        "API Foo *Foo_dup(const Foo *q);", "API int Foo_assign(Foo *p, const Foo *q);",
        "API int Foo_get_A(const Foo *p);", "API int Foo_set_A(Foo *p, int n);"] ∧
    exportedClass.declaredSignatures.Perm (Reader.definitions.lines
      (SourceFile.emitted exportingOptions exportedClass).fragments) := by
  have hc : exportedClass.defect? = none := by decide +kernel
  have hheader : (HeaderFile.emitted exportingOptions exportedClass).cause? = none := by
    decide +kernel
  have hsource : (SourceFile.emitted exportingOptions exportedClass).cause? = none := by
    decide +kernel
  obtain ⟨hlines, hperm, -⟩ :=
    prototypes_agree_with_definitions exportingOptions exportedClass hc hheader hsource
  refine ⟨hc, hheader, hsource, hlines.trans ?_, hperm⟩
  decide +kernel

end OpaqueC
