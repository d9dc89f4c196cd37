import OpaqueC.Proofs.Conditional.HeaderRegions
import OpaqueC.Proofs.Conditional.SourceRegions

/-!
# Conditional compilation as a projection

What a preprocessor keeps of the two files of a class, for a choice of the tests that hold, is
what the files of the reduced class hold: the class without the members whose guard fails, and
without the guards of the others. Only blank lines may differ, and the includes that members
need: several members may need one header, so it is included under a guard of its own.

## Main results

* `emitted_shown_eq_under`: the regions of both files, and what is shown of them.
-/

namespace OpaqueC

/-- The regions of both files are properly closed, also inside every block, and no region of a
member is inside another one. For every choice of the tests that hold, if a member is left, the
reduced class has no defect either, and what is shown of the files of the class is what is shown
of those of the reduced class, but for the includes that members need. -/
theorem emitted_shown_eq_under (ρ : String → Bool) (o : Options) (c : Class)
    (ho : o.includeLimit? = none) (hc : c.defect? = none) :
    (∃ inside, Nested 1 inside ∧
      (HeaderFile.emitted o c).fragments = .directive ("#ifndef " ++ guardMacro c.name) ::
        (inside ++ [.directive ("#endif /* " ++ guardMacro c.name ++ " */")]) ∧
      Nested 2 (HeaderFile.emitted o c).fragments ∧
      Nested 1 (SourceFile.emitted o c).fragments) ∧
    ((∃ m ∈ c.members, m.isActive ρ = true) →
      (c.under ρ).defect? = none ∧
      Fragment.shown ρ (SourceFile.emitted o c).fragments =
        Fragment.shown ρ (SourceFile.emitted o (c.under ρ)).fragments ∧
      ∃ before included included' after : List Fragment,
        Fragment.shown ρ (HeaderFile.emitted o c).fragments = before ++ included ++ after ∧
        Fragment.shown ρ (HeaderFile.emitted o (c.under ρ)).fragments =
          before ++ included' ++ after ∧
        (∀ f ∈ included, ∃ header ∈ HeaderFile.memberHeaders c,
          f = .directive (includeDirective header)) ∧
        (∀ f ∈ included', ∃ header ∈ HeaderFile.memberHeaders (c.under ρ),
          f = .directive (includeDirective header))) := by
  have hopen := Class.guardsOpen hc
  have hheader : (HeaderFile.emitted o c).cause? = none := by
    rw [HeaderFile.cause?_emitted ho, hc, Option.map_none]
  have hsource : (SourceFile.emitted o c).cause? = none := by
    rw [SourceFile.cause?_emitted ho, hc, Option.map_none]
  refine ⟨⟨HeaderFile.inside o c, HeaderFile.nested_inside hopen o,
    HeaderFile.fragments_eq_inside hc hheader, HeaderFile.nested_emitted hc hheader,
    SourceFile.nested_emitted hc hsource⟩, fun hactive => ?_⟩
  -- A member is left, so both files of the reduced class are complete as well.
  have hc' := Class.under_valid hc hactive
  have hheader' : (HeaderFile.emitted o (c.under ρ)).cause? = none := by
    rw [HeaderFile.cause?_emitted ho, hc', Option.map_none]
  have hsource' : (SourceFile.emitted o (c.under ρ)).cause? = none := by
    rw [SourceFile.cause?_emitted ho, hc', Option.map_none]
  refine ⟨hc', ?_, ?_⟩
  · rw [SourceFile.shown_emitted hc hsource, SourceFile.shown_emitted hc' hsource',
      (SourceFile.shown_definitions hopen).shown_eq]
    rfl
  rw [HeaderFile.shown_emitted hc hheader, HeaderFile.shown_emitted hc' hheader',
    (HeaderFile.shown_declarationsInside hopen o).shown_eq]
  -- Both headers have the same include guard. If its test fails, nothing is shown of either.
  have hname : (c.under ρ).name = c.name := rfl
  rw [hname]
  split
  · exact ⟨_, _, _, _, rfl, rfl, (HeaderFile.shown_includes ρ hopen).2,
      (HeaderFile.shown_includes ρ (Class.guardsOpen hc')).2⟩
  · exact ⟨[], [], [], [], rfl, rfl, fun _ hf => absurd hf List.not_mem_nil,
      fun _ hf => absurd hf List.not_mem_nil⟩

/-- A class with two members, of which one test or its negation leaves one. -/
def guardedClass : Class :=
  ⟨"Foo", [{ name := "A", kind := .scalar, typeName? := some "int", guard? := some " #ifdef X " },
    { name := "B", kind := .string, guard? := some "#ifndef X" }]⟩

/-- With `X` defined, the source of `guardedClass` shows what that of its first member shows. -/
theorem guardedClass_shown_eq_under :
    ({} : Options).includeLimit? = none ∧ guardedClass.defect? = none ∧
    guardedClass.under (· == "#ifdef X") =
      ⟨"Foo", [{ name := "A", kind := .scalar, typeName? := some "int" }]⟩ ∧
    Fragment.shown (· == "#ifdef X") (SourceFile.emitted {} guardedClass).fragments =
      Fragment.shown (· == "#ifdef X") (SourceFile.emitted {}
        ⟨"Foo", [{ name := "A", kind := .scalar, typeName? := some "int" }]⟩).fragments := by
  have hc : guardedClass.defect? = none := by decide +kernel
  have hactive : ∃ m ∈ guardedClass.members, m.isActive (· == "#ifdef X") = true :=
    ⟨_, List.mem_cons_self, by decide +kernel⟩
  have hunder : guardedClass.under (· == "#ifdef X") =
      ⟨"Foo", [{ name := "A", kind := .scalar, typeName? := some "int" }]⟩ := by
    decide +kernel
  obtain ⟨-, hshown, -⟩ :=
    (emitted_shown_eq_under (· == "#ifdef X") {} guardedClass rfl hc).2 hactive
  rw [hunder] at hshown
  exact ⟨rfl, hc, hunder, hshown⟩

end OpaqueC
