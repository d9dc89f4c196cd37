import OpaqueC.Generation.Render
import OpaqueC.Proofs.Emission.Steps
import OpaqueC.Proofs.MemberCode.Codes

/-!
# How the files of a class end

Both files of a class are emitted on their own, and each of them checks the class after its
preamble. This module says what the steps of a file are once the outcome of the check is known,
and what a new file of these steps comes to.

## Main definitions

* `HeaderFile.emitted`, `SourceFile.emitted`: what the steps of a file come to in a new file;
* `Emitted.EndsAsChecked`: the two ways in which a file of a class may end.

## Main results

* `HeaderFile.fragments_emitted`, `SourceFile.fragments_emitted`: the parts of a complete
  file;
* `HeaderFile.endsAsChecked_emitted`, `SourceFile.endsAsChecked_emitted`: a file ends as the
  check of the class does, or at a header one too many;
* `HeaderFile.cause?_emitted`, `SourceFile.cause?_emitted`: without an include limit a file
  fails exactly for the first defect of the class;
* `render_fails_exactly_with_check`: without an include limit both files are rendered, and
  both carry the first defect of the class or nothing.
-/

namespace OpaqueC

namespace Emitted

/-- What was emitted stops at a header one too many, or it ends as the check of the class does. -/
def EndsAsChecked (e : Emitted) (c : Class) : Prop :=
  (∃ refusal, e.cause? = some (.limit refusal)) ∨ e.cause? = c.defect?.map .defect

/-- Steps that check a class after a first part end as the check does, unless they are stopped. -/
theorem endsAsChecked_ofSteps (s : IncludeSet) (c : Class) {first : List Step}
    (hfirst : ∀ defect, Step.reject defect ∉ first) {rest : List MemberCode → List Step}
    (hrest : ∀ codes defect, .reject defect ∉ rest codes) :
    (ofSteps s (first ++
      match c.memberCodes with
      | .error defect => [.reject defect]
      | .ok codes => rest codes)).EndsAsChecked c := by
  rcases cause?_ofSteps_of_no_reject s hfirst with ⟨refusal, hlimit⟩ | hdone
  · left
    refine ⟨refusal, ?_⟩
    rw [ofSteps_append_of_failed hlimit, hlimit]
  · -- The first part is performed whole, so the outcome is that of the check.
    rw [EndsAsChecked, ofSteps_append hdone, cause?_after]
    cases hc : c.defect? with
    | none =>
      rw [Class.memberCodes_of_valid hc]
      exact cause?_ofSteps_of_no_reject _ (hrest _)
    | some defect =>
      rw [Class.memberCodes_of_defect hc]
      exact .inr rfl

end Emitted

namespace HeaderFile

/-- What the header of a class comes to in a new file. -/
def emitted (o : Options) (c : Class) : Emitted :=
  .ofSteps (.empty o.includeLimit?) (steps o c)

theorem reject_not_mem_preamble (o : Options) (className : String) (defect : Defect) :
    Step.reject defect ∉ preamble o className := by
  unfold preamble globalInclude
  split <;> simp

theorem reject_not_mem_memberIncludes (o : Options) (c : Class) (defect : Defect) :
    Step.reject defect ∉ memberIncludes o c := by
  unfold memberIncludes memberInclude
  split <;> simp

theorem steps_of_valid (o : Options) {c : Class} (hc : c.defect? = none) :
    steps o c = preamble o c.name ++ (memberIncludes o c ++
      [.write (declarations o c.name (c.members.map (·.code c.name)))]) := by
  rw [steps, Class.memberCodes_of_valid hc]

/-- What the preamble of the header comes to in a new file. -/
def preambleEmitted (o : Options) (className : String) : Emitted :=
  .ofSteps (.empty o.includeLimit?) (preamble o className)

/-- What the includes of the members come to behind the preamble. -/
def includesEmitted (o : Options) (c : Class) : Emitted :=
  .ofSteps (preambleEmitted o c.name).includes (memberIncludes o c)

/-- A complete header is made of the preamble, the includes of the members and the
declarations. -/
theorem fragments_emitted {o : Options} {c : Class} (hc : c.defect? = none)
    (hdone : (emitted o c).cause? = none) :
    (emitted o c).fragments = (preambleEmitted o c.name).fragments ++
      ((includesEmitted o c).fragments ++
        declarations o c.name (c.members.map (·.code c.name))) := by
  rw [emitted, steps_of_valid o hc] at hdone ⊢
  obtain ⟨hpre, hrest⟩ := (Emitted.cause?_ofSteps_append_eq_none_iff _ _ _).mp hdone
  obtain ⟨hincludes, -⟩ := (Emitted.cause?_ofSteps_append_eq_none_iff _ _ _).mp hrest
  rw [Emitted.ofSteps_append hpre, Emitted.ofSteps_append hincludes]
  simp [preambleEmitted, includesEmitted]

theorem endsAsChecked_emitted (o : Options) (c : Class) : (emitted o c).EndsAsChecked c := by
  refine Emitted.endsAsChecked_ofSteps _ c (reject_not_mem_preamble o c.name) ?_
  intro codes defect hmem
  rcases List.mem_append.mp hmem with hmem | hmem
  · exact reject_not_mem_memberIncludes o c defect hmem
  · exact absurd (List.mem_singleton.mp hmem) Step.noConfusion

/-- Without an include limit the header fails exactly for the first defect of the class. -/
theorem cause?_emitted {o : Options} (ho : o.includeLimit? = none) (c : Class) :
    (emitted o c).cause? = c.defect?.map .defect := by
  rcases endsAsChecked_emitted o c with ⟨refusal, hlimit⟩ | hcheck
  · exact absurd hlimit (Emitted.cause?_ofSteps_ne_limit ho _ refusal)
  · exact hcheck

end HeaderFile

namespace SourceFile

/-- What the source of a class comes to in a new file. -/
def emitted (o : Options) (c : Class) : Emitted :=
  .ofSteps (.empty o.includeLimit?) (steps o c)

theorem reject_not_mem_preamble (o : Options) (c : Class) (defect : Defect) :
    Step.reject defect ∉ preamble o c := by
  unfold preamble configInclude libraryInclude
  split <;> simp

theorem steps_of_valid (o : Options) {c : Class} (hc : c.defect? = none) :
    steps o c = preamble o c ++
      [.write (definitions c.name (c.members.map (·.code c.name)))] := by
  rw [steps, Class.memberCodes_of_valid hc]

/-- What the preamble of the source comes to in a new file. -/
def preambleEmitted (o : Options) (c : Class) : Emitted :=
  .ofSteps (.empty o.includeLimit?) (preamble o c)

/-- A complete source is made of the preamble and the definitions. -/
theorem fragments_emitted {o : Options} {c : Class} (hc : c.defect? = none)
    (hdone : (emitted o c).cause? = none) :
    (emitted o c).fragments = (preambleEmitted o c).fragments ++
      definitions c.name (c.members.map (·.code c.name)) := by
  rw [emitted, steps_of_valid o hc] at hdone ⊢
  obtain ⟨hpre, -⟩ := (Emitted.cause?_ofSteps_append_eq_none_iff _ _ _).mp hdone
  rw [Emitted.ofSteps_append hpre]
  simp [preambleEmitted]

theorem endsAsChecked_emitted (o : Options) (c : Class) : (emitted o c).EndsAsChecked c := by
  refine Emitted.endsAsChecked_ofSteps _ c (reject_not_mem_preamble o c) ?_
  intro codes defect hmem
  exact absurd (List.mem_singleton.mp hmem) Step.noConfusion

/-- Without an include limit the source fails exactly for the first defect of the class. -/
theorem cause?_emitted {o : Options} (ho : o.includeLimit? = none) (c : Class) :
    (emitted o c).cause? = c.defect?.map .defect := by
  rcases endsAsChecked_emitted o c with ⟨refusal, hlimit⟩ | hcheck
  · exact absurd hlimit (Emitted.cause?_ofSteps_ne_limit ho _ refusal)
  · exact hcheck

end SourceFile

/-- A file that fails for a defect, if for anything, is rendered. Its text is the layout of
the emitted fragments. -/
theorem render_eq_ok {path className : String} {o : Options} {steps : List Step} {e : Emitted}
    {defect? : Option Defect} (he : Emitted.ofSteps (.empty o.includeLimit?) steps = e)
    (hcause : e.cause? = defect?.map .defect) :
    render path className o steps =
      .ok { path, content := Writer.textOf e.fragments
            error? := defect?.map fun defect => { className, cause := .defect defect } } := by
  subst he
  have hreset : (Draft.start o.includeLimit?).includes.reset =
      IncludeSet.empty o.includeLimit? := rfl
  unfold render emit
  simp only [hreset, hcause]
  cases defect? with
  | none => rfl
  | some defect => rfl

/-- Without an include limit both files of a class are rendered, and both fail alike: without
an error if the check of the class finds nothing, else with its first defect. The codes of the
members are no further source of failure: after the check of the class every member has one,
and on its own a member has one exactly if its check finds nothing. In particular a member
that passes its check has a type. -/
theorem render_fails_exactly_with_check (o : Options) (c : Class)
    (ho : o.includeLimit? = none) :
    (∃ header source : RenderedFile,
      renderHeader o c = .ok header ∧ renderSource o c = .ok source ∧
      c.defect? = c.defects.head? ∧
      header.error? = (c.defect?.map fun defect => ⟨c.name, .defect defect⟩) ∧
      source.error? = (c.defect?.map fun defect => ⟨c.name, .defect defect⟩)) ∧
    (c.defect? = none →
      ∀ m ∈ c.members, ∃ code, MemberCode.ofMember c.name m = .ok code) ∧
    (∀ className m,
      ((∃ code, MemberCode.ofMember className m = .ok code) ↔ m.defect? className = none) ∧
      (∀ defect, MemberCode.ofMember className m = .error defect ↔
        m.defect? className = some defect) ∧
      (m.defect? className = none → m.cType? ≠ none)) := by
  refine ⟨⟨_, _, render_eq_ok rfl (HeaderFile.cause?_emitted ho c),
    render_eq_ok rfl (SourceFile.cause?_emitted ho c), rfl, rfl, rfl⟩, ?_, ?_⟩
  · intro hc m hm
    exact MemberCode.ofMember_eq_ok_iff.mpr (Class.member_valid hc hm)
  · intro className m
    refine ⟨MemberCode.ofMember_eq_ok_iff, fun defect => MemberCode.ofMember_eq_error_iff, ?_⟩
    intro hm htype
    have hsome := Member.isSome_cType? hm
    rw [htype] at hsome
    exact Bool.noConfusion hsome

/-- A class whose second member has a blank type. -/
def untypedClass : Class :=
  ⟨"Foo", [{ name := "A", kind := .scalar, typeName? := some "int" },
    { name := "B", kind := .buffer, typeName? := some " \t" }]⟩

/-- Both files of `untypedClass` are rendered and fail for its second member. -/
theorem render_fails_for_blank_type :
    ({} : Options).includeLimit? = none ∧
    ∃ header source : RenderedFile,
      renderHeader {} untypedClass = .ok header ∧ renderSource {} untypedClass = .ok source ∧
      header.error? = some ⟨"Foo", .defect (.missingTypeName "Foo" "B" .buffer)⟩ ∧
      source.error? = some ⟨"Foo", .defect (.missingTypeName "Foo" "B" .buffer)⟩ := by
  obtain ⟨⟨header, source, hheader, hsource, -, hherror, hserror⟩, -⟩ :=
    render_fails_exactly_with_check {} untypedClass rfl
  have hdefect : untypedClass.defect? = some (.missingTypeName "Foo" "B" .buffer) := by
    decide +kernel
  rw [hdefect] at hherror hserror
  exact ⟨rfl, header, source, hheader, hsource, hherror, hserror⟩

end OpaqueC
