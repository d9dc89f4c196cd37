import OpaqueC.Proofs.Emission.Outcome

/-!
# Rendered files under an include limit

With an include limit the file of a class is either not rendered at all, because a header is one
too many, or it is rendered as without a limit would be the case: it fails for the first defect
of the class or not at all. So a file that is rendered tells whether the class has a defect.

## Main results

* `renderHeader_cases`, `renderSource_cases`: a file is refused for its includes, or it is
  rendered under its own name and fails as the check of the class does;
* `exists_refusal_of_render_eq_error`: nothing but its includes can stop a file.
-/

namespace OpaqueC

section Render

variable {path : String} {o : Options} {steps : List Step} {c : Class}

/-- Steps that stop at a header one too many leave no file. -/
theorem render_eq_error {className : String} {refusal : LimitReached}
    (h : (Emitted.ofSteps (.empty o.includeLimit?) steps).cause? = some (.limit refusal)) :
    render path className o steps = .error (.includeLimit className refusal) := by
  have hreset : (Draft.start o.includeLimit?).includes.reset =
      IncludeSet.empty o.includeLimit? := rfl
  unfold render emit
  simp only [hreset, h]
  rfl

/-- Nothing but its includes can stop a file, and the error names the class. -/
theorem exists_refusal_of_render_eq_error {className : String} {e : RunError}
    (h : render path className o steps = .error e) :
    ∃ refusal, e = .includeLimit className refusal := by
  unfold render at h
  split at h
  split at h
  · next refusal _ => exact ⟨refusal, (Except.error.inj h).symm⟩
  · cases h

/-- A file whose steps end as the check of a class does is rendered, unless they are stopped. -/
theorem render_cases
    (h : (Emitted.ofSteps (.empty o.includeLimit?) steps).EndsAsChecked c) :
    (∃ refusal, render path c.name o steps = .error (.includeLimit c.name refusal)) ∨
      ∃ file, render path c.name o steps = .ok file ∧ file.path = path ∧
        file.error? = c.defect?.map fun defect => ⟨c.name, .defect defect⟩ := by
  rcases h with ⟨refusal, hlimit⟩ | hcheck
  · exact .inl ⟨refusal, render_eq_error hlimit⟩
  · exact .inr ⟨_, render_eq_ok rfl hcheck, rfl, rfl⟩

/-- A file that is rendered fails exactly as the check of the class does. -/
theorem error?_of_render {file : RenderedFile}
    (h : (Emitted.ofSteps (.empty o.includeLimit?) steps).EndsAsChecked c)
    (hfile : render path c.name o steps = .ok file) :
    file.error? = c.defect?.map fun defect => ⟨c.name, .defect defect⟩ := by
  rcases render_cases h with ⟨refusal, hlimit⟩ | ⟨file', hfile', -, herror⟩
  · rw [hlimit] at hfile
    cases hfile
  · obtain rfl : file' = file := Except.ok.inj (hfile'.symm.trans hfile)
    exact herror

end Render

theorem renderHeader_cases (o : Options) (c : Class) :
    (∃ refusal, renderHeader o c = .error (.includeLimit c.name refusal)) ∨
      ∃ file, renderHeader o c = .ok file ∧ file.path = c.headerFile ∧
        file.error? = c.defect?.map fun defect => ⟨c.name, .defect defect⟩ :=
  render_cases (HeaderFile.endsAsChecked_emitted o c)

theorem renderSource_cases (o : Options) (c : Class) :
    (∃ refusal, renderSource o c = .error (.includeLimit c.name refusal)) ∨
      ∃ file, renderSource o c = .ok file ∧ file.path = c.sourceFile ∧
        file.error? = c.defect?.map fun defect => ⟨c.name, .defect defect⟩ :=
  render_cases (SourceFile.endsAsChecked_emitted o c)

theorem error?_of_renderHeader {o : Options} {c : Class} {file : RenderedFile}
    (h : renderHeader o c = .ok file) :
    file.error? = c.defect?.map fun defect => ⟨c.name, .defect defect⟩ :=
  error?_of_render (HeaderFile.endsAsChecked_emitted o c) h

theorem error?_of_renderSource {o : Options} {c : Class} {file : RenderedFile}
    (h : renderSource o c = .ok file) :
    file.error? = c.defect?.map fun defect => ⟨c.name, .defect defect⟩ :=
  error?_of_render (SourceFile.endsAsChecked_emitted o c) h

end OpaqueC
